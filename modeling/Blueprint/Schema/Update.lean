/-
  Blueprint.Schema.Update — partial updates as JSON (what `_updated` merges into an element, a
  relationship or a view).

  Only the fields that are there are read, each as in the part that it belongs to; a field by an older
  name is not known here, since the part that is updated has the present one.
-/

import Blueprint.Edit.Change

namespace Blueprint

open Check

def ElementUpdate.ofFields (fields : Json.Fields) : Check ElementUpdate :=
  ElementUpdate.mk <$> present fields "kind" (word ElementKind.ofKeyword?)
    <*> present fields "name" text
    <*> present fields "description" text
    <*> present fields "technology" (nullable text)
    <*> present fields "tags" (list text)
    <*> present fields "parent_id" (nullable text)
    <*> present fields "is_external" truth
    <*> present fields "position" Position.read
    <*> present fields "size" (nullable Size.read)

def RelationshipUpdate.ofFields (fields : Json.Fields) : Check RelationshipUpdate :=
  RelationshipUpdate.mk <$> present fields "id" text
    <*> present fields "source_id" text
    <*> present fields "target_id" text
    <*> present fields "description" text
    <*> present fields "technology" (nullable text)
    <*> present fields "kind" (word RelationshipKind.ofKeyword?)
    <*> present fields "tags" (list text)

def ViewUpdate.ofFields (fields : Json.Fields) : Check ViewUpdate :=
  ViewUpdate.mk <$> present fields "id" text
    <*> present fields "key" text
    <*> present fields "kind" (word ViewKind.ofKeyword?)
    <*> present fields "software_system_id" (nullable text)
    <*> present fields "container_id" (nullable text)
    <*> present fields "name" text
    <*> present fields "description" text

end Blueprint
