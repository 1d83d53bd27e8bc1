/-
  Blueprint.Service.Request — what a client can ask for (the routes of `create_app` and their bodies,
  `CreateElementRequest` to `DSLTextRequest`).

  A message has a method, an address and perhaps a body. The names of the address say what it is
  about; the method says what is to be done there, and the body, an object, brings the particulars. A
  particular that is left out or null is not given: what is new then gets the usual value, and what is
  there stays. An address that leads nowhere because of slashes at its end leads where it would lead
  without them. `Message.request` gives the request that a message stands for, or why there is none.

  Proved: a message that is offered something stays as it is (`settled_of_offers`).
-/

import Blueprint.Edit.Change
import Blueprint.Json.Sendable
import Blueprint.Schema.Model
import Blueprint.Service.Address

namespace Blueprint

open Check

/-- A vocabulary that a client may ask for. -/
inductive Vocabulary where
  | elementKinds
  | relationshipKinds
  | viewKinds
  deriving DecidableEq, Repr

inductive Request where
  | health
  | state
  | newWorkspace (name : Option String)
  | openFile (path : String)
  | saveFile (path : Option String)
  | undo
  | redo
  | edit (change : Change)
  | element (id : String)
  | arrange
  /-- Reads a document and leaves the open workspace alone. -/
  | readDocument (text : String)
  /-- Writes the document of a workspace that is sent along. -/
  | writeDocument (draft : WorkspaceDraft)
  | checkDocument (text : String)
  | importDocument (text : String)
  | exportDocument
  | validate
  | vocabulary (v : Vocabulary)
  deriving DecidableEq, Repr

inductive Method where
  | get
  /-- As `get`, but the answer is to have no body. -/
  | head
  | post
  | patch
  | delete
  | other
  deriving DecidableEq, Repr

structure Message where
  method : Method
  address : Address
  body : Option Json := none
  deriving Repr

/-- The message that is put together from its parts, if they can be sent. Parameters take the place of
the address's own query. -/
def Message.compose (method : Method) (address : String) (parameters : Option Json := none)
    (body : Option Json := none) : Except Accident Message := do
  let address ← Address.ofText address
  let address ← match parameters with
    | some j => address.withParameters j
    | none => pure address
  if !body.all Json.isFinite then throw .unsendable
  if !body.all Json.isWhole then throw .halfCharacter
  match address.obstacle? with
  | some a => throw a
  | none => return { method, address, body }

/-! ## Particulars -/

/-- A particular that may be left out or null. -/
def particular {α : Type} (fields : Json.Fields) (name : String) (read : Json → Check α) : Check (Option α) :=
  optional fields name none (nullable read)

def sizeRead (j : Json) : Check Size := object .notAttributes Size.ofFields j

def positionRead (j : Json) : Check Position := object .notAttributes Position.ofFields j

/-- The element that is asked for; a name that is empty is not given. -/
def newElement (kind : ElementKind) (name : Option String) (description : String) (technology : Option String)
    (tags : List String) (parentId : Option String) (isExternal : Bool) (x y : Binary64) (size : Option Size) :
    ElementDraft :=
  { kind, description, technology, tags, parentId, isExternal
    name := (name.filter (· != "")).getD kind.usualName
    position := ⟨x, y⟩
    size := size.or kind.usualSize }

def elementCreation (fields : Json.Fields) : Check ElementDraft :=
  newElement <$> required fields "kind" (word ElementKind.ofKeyword?)
    <*> particular fields "name" text
    <*> optional fields "description" "" text
    <*> particular fields "technology" text
    <*> optional fields "tags" [] (list text)
    <*> particular fields "parent_id" text
    <*> optional fields "is_external" false truth
    <*> optional fields "x" .zero number
    <*> optional fields "y" .zero number
    <*> particular fields "size" sizeRead

def elementUpdate (fields : Json.Fields) : Check ElementUpdate :=
  let make description technology tags parentId isExternal position size : ElementUpdate :=
    { description, technology := technology.map some, tags, parentId := parentId.map some, isExternal, position
      size := size.map some }
  make <$> particular fields "description" text
    <*> particular fields "technology" text
    <*> particular fields "tags" (list text)
    <*> particular fields "parent_id" text
    <*> particular fields "is_external" truth
    <*> particular fields "position" positionRead
    <*> particular fields "size" sizeRead

def relationshipCreation (fields : Json.Fields) : Check RelationshipDraft :=
  RelationshipDraft.mk <$> required fields "source_id" text
    <*> required fields "target_id" text
    <*> optional fields "description" usualRelationshipDescription text
    <*> particular fields "technology" text
    <*> optional fields "kind" .uses (word RelationshipKind.ofKeyword?)
    <*> optional fields "tags" [] (list text)

def relationshipUpdate (fields : Json.Fields) : Check RelationshipUpdate :=
  let make sourceId targetId description technology kind tags : RelationshipUpdate :=
    { sourceId, targetId, description, technology := technology.map some, kind, tags }
  make <$> particular fields "source_id" text
    <*> particular fields "target_id" text
    <*> particular fields "description" text
    <*> particular fields "technology" text
    <*> particular fields "kind" (word RelationshipKind.ofKeyword?)
    <*> particular fields "tags" (list text)

/-- The view that is asked for; without a name it has that of its key. -/
def newView (kind : ViewKind) (key name description : String) (softwareSystemId containerId : Option String) :
    ViewDraft :=
  { key := viewKeyFor key, kind, softwareSystemId, containerId, name := if name = "" then key else name, description }

def viewCreation (fields : Json.Fields) : Check ViewDraft :=
  newView <$> required fields "kind" (word ViewKind.ofKeyword?)
    <*> required fields "key" text
    <*> optional fields "name" "" text
    <*> optional fields "description" "" text
    <*> particular fields "software_system_id" text
    <*> particular fields "container_id" text

def viewUpdate (fields : Json.Fields) : Check ViewUpdate :=
  let make key description softwareSystemId containerId : ViewUpdate :=
    { key, description, softwareSystemId := softwareSystemId.map some, containerId := containerId.map some }
  make <$> particular fields "key" text
    <*> particular fields "description" text
    <*> particular fields "software_system_id" text
    <*> particular fields "container_id" text

/-! ## From messages to requests -/

/-- Why a message is no request. -/
inductive Unasked where
  | unknownAddress
  | wrongMethod
  | misfits (issues : List Issue)
  deriving DecidableEq, Repr

namespace Message

/-- The request in the body of a message. -/
def reading (m : Message) (read : Json → Check Request) : Check Request :=
  match m.body with
  | none | some .null => (misfit .missing).within "body"
  | some j => (read j).within "body"

def fieldsReading (m : Message) (read : Json.Fields → Check Request) : Check Request :=
  m.reading (object .notAttributes read)

/-- The request in a body of which one text is needed. -/
def textReading (m : Message) (name : String) (make : String → Request) : Check Request :=
  m.fieldsReading fun fields => make <$> required fields name text

def infoReading (m : Message) : Check Request :=
  m.fieldsReading fun fields =>
    (fun name description => Request.edit (.setInfo name description)) <$> particular fields "name" text
      <*> particular fields "description" text

/-- A request that changes the workspace in the way that the body says. -/
def editReading {α : Type} (m : Message) (read : Json.Fields → Check α) (change : α → Change) : Check Request :=
  m.fieldsReading fun fields => (fun a => Request.edit (change a)) <$> read fields

/-- What each method that is known under these names asks for there. -/
def offersUnder (m : Message) : List String → List (Method × Check Request)
  | ["api", "health"] => [(.get, .fits .health)]
  | ["api", "workspace"] => [(.get, .fits .state), (.patch, m.infoReading)]
  | ["api", "workspace", "new"] => [(.post, .fits (.newWorkspace (m.address.parameter? "name")))]
  | ["api", "workspace", "open"] => [(.post, m.textReading "file_path" .openFile)]
  | ["api", "workspace", "save"] =>
    [(.post, m.fieldsReading fun fields => .saveFile <$> particular fields "file_path" text)]
  | ["api", "undo"] => [(.post, .fits .undo)]
  | ["api", "redo"] => [(.post, .fits .redo)]
  | ["api", "elements"] => [(.post, m.editReading elementCreation (.addElement none))]
  | ["api", "elements", id] =>
    [(.get, .fits (.element id)), (.patch, m.editReading elementUpdate (.updateElement id)),
      (.delete, .fits (.edit (.deleteElement id)))]
  | ["api", "elements", id, "rename"] => [(.post, m.textReading "name" fun name => .edit (.renameElement id name))]
  | ["api", "relationships"] => [(.post, m.editReading relationshipCreation (.addRelationship none))]
  | ["api", "relationships", id] =>
    [(.patch, m.editReading relationshipUpdate (.updateRelationship id)),
      (.delete, .fits (.edit (.deleteRelationship id)))]
  | ["api", "views"] => [(.post, m.editReading viewCreation (.addView none))]
  | ["api", "views", id] =>
    [(.patch, m.editReading viewUpdate (.updateView id)), (.delete, .fits (.edit (.deleteView id)))]
  | ["api", "views", id, "rename"] => [(.post, m.textReading "name" fun name => .edit (.renameView id name))]
  | ["api", "layout", "auto"] => [(.post, .fits .arrange)]
  | ["api", "dsl", "parse"] => [(.post, m.textReading "dsl" .readDocument)]
  | ["api", "dsl", "generate"] =>
    [(.post, m.reading fun j => .writeDocument <$> WorkspaceDraft.readStrictly .notAttributes j)]
  | ["api", "dsl", "validate"] => [(.post, m.textReading "dsl" .checkDocument)]
  | ["api", "dsl", "import"] => [(.post, m.textReading "dsl" .importDocument)]
  | ["api", "dsl", "export"] => [(.get, .fits .exportDocument)]
  | ["api", "validate"] => [(.get, .fits .validate)]
  | ["api", "enums", "element-kinds"] => [(.get, .fits (.vocabulary .elementKinds))]
  | ["api", "enums", "relationship-kinds"] => [(.get, .fits (.vocabulary .relationshipKinds))]
  | ["api", "enums", "view-kinds"] => [(.get, .fits (.vocabulary .viewKinds))]
  | _ => []

/-- The names, a line end at the end of the last one left out. -/
def withoutLineEnd (names : List String) : List String :=
  match names.getLast? with
  | none => names
  | some last =>
    if last.toList.getLast? = some '\n' then names.dropLast ++ [String.ofList last.toList.dropLast] else names

/-- What each method that the address knows asks for there. No address has an empty name in it. -/
def offers (m : Message) : List (Method × Check Request) :=
  let names := m.address.names
  if names.contains "" then [] else
  match m.offersUnder names with
  | [] => m.offersUnder (withoutLineEnd names)
  | found => found

/-- The message that is offered something, if slashes at the end are all that is too much; each round
drops some of them. -/
def settled : Nat → Message → Message
  | 0, m => m
  | fuel + 1, m =>
    if m.offers.isEmpty && m.address.path.getLast? = some '/' then
      let trimmed : Message := { m with address := m.address.trimmed }
      if trimmed.offers.isEmpty then m
      else settled fuel { trimmed with address := trimmed.address.reread }
    else m

def request (m : Message) : Except Unasked Request :=
  let m := settled m.address.path.length m
  match m.offers with
  | [] => .error .unknownAddress
  | offers =>
    match offers.find? (·.1 == m.method) with
    | none => .error .wrongMethod
    | some (_, .fits r) => .ok r
    | some (_, .misfits issues) => .error (.misfits issues)

/-! ## Small facts -/

theorem settled_of_offers {m : Message} (fuel : Nat) (h : m.offers ≠ []) : settled fuel m = m := by
  cases fuel with
  | zero => rfl
  | succ fuel =>
    have : m.offers.isEmpty = false := by simpa using h
    simp only [settled, this, Bool.false_and, Bool.false_eq_true, if_false]

end Message

end Blueprint
