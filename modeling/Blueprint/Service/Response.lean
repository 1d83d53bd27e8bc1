/-
  Blueprint.Service.Response — how a request is answered (`_http_error` and what the routes of
  `create_app` return).

  An answer has a status and a body. The status is 200 if the request was met, and otherwise says why
  not: 404 for what is not there, 405 for a method that the address does not know, 422 for a body that
  does not fit, 500 for a file that cannot be written, 400 for any other refusal. A request that comes
  to an accident is answered by 500 and no body; so is one whose answer cannot be sent.

  Proved: every answer that is sent has a body that can be sent (`isSendable_body_sent`).
-/

import Blueprint.Fault
import Blueprint.Json.Shown
import Blueprint.Service.Request

namespace Blueprint

/-- Why a request is not met. -/
inductive Refusal where
  | unasked (u : Unasked)
  | fault (f : Fault)
  | noSuchElement
  | nothingToArrange
  | notSaved (trouble : FileTrouble) (path : String)
  deriving DecidableEq, Repr

inductive Response where
  | met (body : Json)
  | refused (r : Refusal)
  | broken (a : Accident)
  deriving Repr

namespace Refusal

def status : Refusal → Nat
  | unasked .unknownAddress | noSuchElement => 404
  | unasked .wrongMethod => 405
  | unasked (.misfits _) => 422
  | fault f => if f.classOf = .notFound then 404 else 400
  | nothingToArrange => 400
  | notSaved .. => 500

def message : Refusal → String
  | unasked .unknownAddress => "Not Found"
  | unasked .wrongMethod => "Method Not Allowed"
  | unasked (.misfits _) => "[request validation]"
  | fault f => f.message
  | noSuchElement => "Element not found"
  | nothingToArrange => "No elements to layout"
  | notSaved trouble path =>
    "Failed to save: [Errno " ++ natText trouble.number ++ "] " ++ trouble.message ++ ": " ++ Json.quotedText path

def body : Refusal → Json
  | unasked (.misfits issues) => .obj [("issues", issuesJson issues)]
  | r => .obj [("detail", .str r.message)]

end Refusal

namespace Response

def status : Response → Nat
  | met _ => 200
  | refused r => r.status
  | broken _ => 500

def body : Response → Json
  | met body => body
  | refused r => r.body
  | broken _ => .null

/-- The body as it is given to one who has asked in this way, if any is. -/
def bodyFor (r : Response) : Method → Option Json
  | .head => none
  | _ => some r.body

/-- The response as it is sent. -/
def sent (r : Response) : Response :=
  if r.body.isSendable then r else .broken (if r.body.isFinite then .halfCharacter else .unsendable)

theorem isSendable_body_sent (r : Response) : r.sent.body.isSendable = true := by
  unfold sent
  split
  · assumption
  · rfl

theorem eq_of_sent_eq_refused {r : Response} {why : Refusal} (h : r.sent = .refused why) : r = .refused why := by
  unfold sent at h
  split at h
  · exact h
  · cases h

end Response

/-! ## Bodies -/

namespace Json

/-- The fields, with the word that the request was met in front. -/
def success (fields : Fields) : Json := .obj (("success", .bool true) :: fields)

end Json

def Vocabulary.toJson (v : Vocabulary) : Json :=
  let kinds := match v with
    | elementKinds => ElementKind.all.map fun k => .obj [("value", .str k.keyword), ("label", .str k.label)]
    | relationshipKinds => RelationshipKind.all.map (.str ·.keyword)
    | viewKinds => ViewKind.all.map (.str ·.keyword)
  .obj [("kinds", .arr kinds)]

end Blueprint
