/-
  Blueprint.Proofs.Service.Requested — what can be asked for by a message.

  A change that a message asks for is made of names in its address and of particulars in its body. The
  particulars are no ids: what is added gets its id later, and what is there keeps its id and its kind.

  Proved: a message asks for no other changes than these (`offered_of_request`), which give no ids and change
  no kinds (`Change.Offered.requested`).
-/

import Blueprint.Proofs.Edit.Settled
import Blueprint.Service.Request

namespace Blueprint

namespace Check

variable {α β : Type} {p : β → Prop}

/-- Whatever the check gives is of a sort. -/
def All (p : β → Prop) (c : Check β) : Prop := ∀ b, c = .fits b → p b

theorem all_fits {b : β} (h : p b) : (Check.fits b).All p := fun _ e => by cases e; exact h

theorem all_misfits (issues : List Issue) : (Check.misfits issues : Check β).All p := fun _ e => nomatch e

theorem all_within {c : Check β} (step : String) (h : c.All p) : (c.within step).All p := by
  cases c with
  | fits b => exact h
  | misfits issues => exact all_misfits _

theorem all_map {c : Check α} {f : α → β} (h : c.All fun a => p (f a)) : (f <$> c).All p := by
  intro b e
  obtain ⟨a, ha, rfl⟩ := map_fits e
  exact h a ha

theorem all_seq {c : Check α} {f : Check (α → β)} (h : f.All fun g => ∀ a, p (g a)) : (f <*> c).All p := by
  intro b e
  obtain ⟨g, a, hg, _, rfl⟩ := both_fits e
  exact h g hg a

theorem all_of {c : Check β} (h : ∀ b, p b) : c.All p := fun b _ => h b

end Check

open Check

/-- The changes that a message can ask for, by what their particulars were read from. -/
inductive Change.Offered : Change → Prop
  | setInfo (name description : Option String) : Offered (.setInfo name description)
  | addElement {fields : Json.Fields} {draft : ElementDraft} :
      elementCreation fields = .fits draft → Offered (.addElement none draft)
  | updateElement {fields : Json.Fields} {u : ElementUpdate} (id : String) :
      elementUpdate fields = .fits u → Offered (.updateElement id u)
  | renameElement (id name : String) : Offered (.renameElement id name)
  | deleteElement (id : String) : Offered (.deleteElement id)
  | addRelationship {fields : Json.Fields} {draft : RelationshipDraft} :
      relationshipCreation fields = .fits draft → Offered (.addRelationship none draft)
  | updateRelationship {fields : Json.Fields} {u : RelationshipUpdate} (id : String) :
      relationshipUpdate fields = .fits u → Offered (.updateRelationship id u)
  | deleteRelationship (id : String) : Offered (.deleteRelationship id)
  | addView {fields : Json.Fields} {draft : ViewDraft} :
      viewCreation fields = .fits draft → Offered (.addView none draft)
  | updateView {fields : Json.Fields} {u : ViewUpdate} (id : String) :
      viewUpdate fields = .fits u → Offered (.updateView id u)
  | renameView (id name : String) : Offered (.renameView id name)
  | deleteView (id : String) : Offered (.deleteView id)

def Request.Offered : Request → Prop
  | .edit c => c.Offered
  | _ => True

/-! ## Particulars -/

theorem elementUpdate_requested (fields : Json.Fields) (id : String) :
    (elementUpdate fields).All fun u => (Change.updateElement id u).Requested := by
  refine all_seq (all_seq (all_seq (all_seq (all_seq (all_seq (all_map (all_of ?_)))))))
  intros
  exact ⟨rfl, rfl⟩

theorem relationshipUpdate_requested (fields : Json.Fields) (id : String) :
    (relationshipUpdate fields).All fun u => (Change.updateRelationship id u).Requested := by
  refine all_seq (all_seq (all_seq (all_seq (all_seq (all_map (all_of ?_))))))
  intros
  rfl

theorem viewUpdate_requested (fields : Json.Fields) (id : String) :
    (viewUpdate fields).All fun u => (Change.updateView id u).Requested := by
  refine all_seq (all_seq (all_seq (all_map (all_of ?_))))
  intros
  exact ⟨rfl, rfl, rfl⟩

theorem Change.Offered.requested {c : Change} (h : c.Offered) : c.Requested := by
  cases h with
  | updateElement id read => exact elementUpdate_requested _ id _ read
  | updateRelationship id read => exact relationshipUpdate_requested _ id _ read
  | updateView id read => exact viewUpdate_requested _ id _ read
  | addElement _ | addRelationship _ | addView _ => rfl
  | _ => trivial

/-! ## Messages -/

namespace Message

variable {m : Message}

theorem offered_reading {read : Json → Check Request} (h : ∀ j, (read j).All Request.Offered) :
    (m.reading read).All Request.Offered := by
  unfold reading
  split
  · exact all_misfits _
  · exact all_misfits _
  · exact all_within "body" (h _)

theorem offered_fieldsReading {read : Json.Fields → Check Request}
    (h : ∀ fields, (read fields).All Request.Offered) :
    (m.fieldsReading read).All Request.Offered := by
  refine offered_reading fun j => ?_
  cases j with
  | obj fields => exact h fields
  | _ => exact all_misfits _

theorem offered_textReading {name : String} {make : String → Request} (h : ∀ s, (make s).Offered) :
    (m.textReading name make).All Request.Offered := offered_fieldsReading fun _ => all_map (all_of h)

theorem offered_editReading {α : Type} {read : Json.Fields → Check α} {change : α → Change}
    (h : ∀ fields a, read fields = .fits a → (change a).Offered) :
    (m.editReading read change).All Request.Offered := offered_fieldsReading fun fields => all_map (h fields)

theorem offered_offersUnder (m : Message) (names : List String) :
    ∀ o ∈ m.offersUnder names, o.2.All Request.Offered := by
  have edits : ∀ c : Change, c.Offered → (Check.fits (.edit c)).All Request.Offered := fun _ h => all_fits h
  unfold offersUnder
  split
  all_goals simp only [List.forall_mem_cons, List.not_mem_nil, false_imp_iff, implies_true, and_true]
  -- the names behind which there is a change, or a body that is not one text
  case h_2 =>
    exact ⟨all_fits trivial, offered_fieldsReading fun _ => all_seq (all_map (all_of fun _ _ => .setInfo _ _))⟩
  case h_5 => exact offered_fieldsReading fun _ => all_map (all_of fun _ => trivial)
  case h_8 => exact offered_editReading fun _ _ => .addElement
  case h_9 id => exact ⟨all_fits trivial, offered_editReading fun _ _ => .updateElement id, edits _ (.deleteElement id)⟩
  case h_10 id => exact offered_textReading fun name => .renameElement id name
  case h_11 => exact offered_editReading fun _ _ => .addRelationship
  case h_12 id => exact ⟨offered_editReading fun _ _ => .updateRelationship id, edits _ (.deleteRelationship id)⟩
  case h_13 => exact offered_editReading fun _ _ => .addView
  case h_14 id => exact ⟨offered_editReading fun _ _ => .updateView id, edits _ (.deleteView id)⟩
  case h_15 id => exact offered_textReading fun name => .renameView id name
  case h_18 => exact offered_reading fun _ => all_map (all_of fun _ => trivial)
  all_goals first
    | exact all_fits trivial
    | exact offered_textReading fun _ => trivial

theorem offered_offers (m : Message) : ∀ o ∈ m.offers, o.2.All Request.Offered := by
  unfold offers
  dsimp only
  split
  · simp
  · split <;> exact offered_offersUnder m _

theorem offered_of_request {r : Request} (h : m.request = .ok r) : r.Offered := by
  unfold request at h
  dsimp only at h
  split at h
  · cases h
  · split at h
    · cases h
    · next found =>
      cases h
      exact offered_offers _ _ (List.mem_of_find?_eq_some found) _ rfl
    · cases h

end Message

end Blueprint
