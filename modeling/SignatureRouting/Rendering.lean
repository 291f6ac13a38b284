import SignatureRouting.Error
import SignatureRouting.Value.Text

/-!
How refusals are put into words. The message of a `SigningError` is made from the data that the
error carries, before the error is raised. Where an integer in it is too long to be written there
is no message and no such error, and the caller learns of the integer alone. A `Failure` is what a
caller is left with: a signing error, a misuse, or a complaint that belongs to no class.

Clients get a body with the code, the message and the status, and the single complaints of an error
that has any. What the library does meanwhile stands in journal entries.
-/
namespace SignatureRouting

inductive Failure where
  | signing (e : SigningError)
  | misuse (m : Misuse)
  | repeatedCategories (categories : List String)
  | unknownRole (value : Value)
  | overlong (o : Overlong)
  | derivedField (name : String)
  | notInitialized (part : String)

structure Response where
  body : Value
  status : Nat
  mediaType : String

inductive JournalLevel where
  | debug
  | info
  deriving DecidableEq, Repr

structure JournalEntry where
  level : JournalLevel
  text : String
  deriving DecidableEq, Repr

def JournalLevel.name : JournalLevel → String
  | debug => "DEBUG"
  | info => "INFO"

def orDefault (detail default : String) : String := if detail.isEmpty then default else detail

namespace SigningError
open Value (isWritable writesIf_written)

def message : SigningError → Except Overlong String
  | general detail => return orDefault detail Category.internal.defaultMessage
  | plain c detail => return orDefault detail c.defaultMessage
  | terminated detail => return orDefault detail "Workflow already terminated"
  | wrongTag expected received => do
    return s!"Wrong process tag '{← received.written}' for this step " ++
      s!"(expected '{← expected.written}')"
  | actorNotEligible actor => do
    return s!"Actor {← actor.written} is not eligible or already fulfilled this step"
  | documentNotActionable document actor reason => do
    return s!"Document {← document.written} cannot be acted on by actor {← actor.written}: " ++
      (← reason.written)
  | scenarioInvalid items => return "Unspecified or inconsistent items: " ++ ", ".intercalate items
  | scenarioConflict items => return "Conflicted items: " ++ ", ".intercalate items
  | actorNotPermitted participant tag verb => do
    return s!"Actor '{← participant.written}' cannot {← verb.written} with tag '{← tag.written}'"
  | participantNotFound participant => do
    return s!"Actor '{← participant.written}' not found"
  | splitNotAllowed => return "Workflow cannot be split at its current position"

def shown : SigningError → List Value
  | wrongTag expected received => [received, expected]
  | actorNotEligible actor => [actor]
  | documentNotActionable document actor reason => [document, actor, reason]
  | actorNotPermitted participant tag verb => [participant, verb, tag]
  | participantNotFound participant => [participant]
  | _ => []

def raised (e : SigningError) : Failure :=
  match e.message with
  | .ok _ => .signing e
  | .error o => .overlong o

/-- An error without a message is never raised, so no client gets the empty text. -/
def payload (e : SigningError) : Value :=
  let complaints := e.items?.getD []
  .object ([("error", .text e.category.code), ("message", .text (e.message.toOption.getD "")),
    ("status_code", .int e.category.status)] ++
    if complaints.isEmpty then [] else [("errors", .list (complaints.map .text))])

def response (e : SigningError) : Response := ⟨e.payload, e.category.status, "application/json"⟩

theorem writesIf_message (e : SigningError) : WritesIf e.message (e.shown.all isWritable) := by
  cases e with
  | wrongTag _ _ =>
    exact (writesIf_written _).bind fun _ => (writesIf_written _).bind fun _ => .pure _
  | actorNotEligible _ => exact (writesIf_written _).bind fun _ => .pure _
  | documentNotActionable _ _ _ =>
    exact (writesIf_written _).bind fun _ => (writesIf_written _).bind fun _ =>
      (writesIf_written _).bind fun _ => .pure _
  | actorNotPermitted _ _ _ =>
    exact (writesIf_written _).bind fun _ => (writesIf_written _).bind fun _ =>
      (writesIf_written _).bind fun _ => .pure _
  | participantNotFound _ => exact (writesIf_written _).bind fun _ => .pure _
  | _ => exact .pure _

end SigningError

namespace Failure
open Value (isWritable)

def ofMessage (c : Category) (message : Except Overlong String) : Failure :=
  match message with
  | .ok m => .signing (.plain c m)
  | .error o => .overlong o

def message? : Failure → Option String
  | signing e => e.message.toOption
  | misuse _ => none
  | repeatedCategories categories =>
    some ("Approval categories cannot redefine existing tags: " ++
      ", ".intercalate (categories.map quoted))
  | unknownRole value =>
    match value.quoted with
    | .ok text => some (text ++ " is not a valid RoleType")
    | .error o => some o.text
  | overlong o => some o.text
  | derivedField name =>
    some s!"field {name} is declared with init=False, it cannot be specified with replace()"
  | notInitialized part =>
    some s!"SigningPlugin has not been initialized. Access {part} after app startup."

def RaisesIf (f : Failure) (p : Bool) (kind : SigningError → Prop) : Prop :=
  if p then ∃ s, f = signing s ∧ kind s else f = overlong .written

theorem RaisesIf.told {f : Failure} {p : Bool} {kind : SigningError → Prop}
    (raises : f.RaisesIf p kind) (writable : p = true) : ∃ s, f = .signing s ∧ kind s := by
  subst writable
  exact raises

theorem RaisesIf.unsaid {f : Failure} {p : Bool} {kind : SigningError → Prop}
    (raises : f.RaisesIf p kind) (long : p = false) : f = .overlong .written := by
  subst long
  exact raises

theorem RaisesIf.signing {f : Failure} {values : List Value} {kind : SigningError → Prop}
    (raises : f.RaisesIf (values.all isWritable) kind)
    (writable : ∀ v ∈ values, v.isWritable = true) : ∃ s, f = .signing s ∧ kind s :=
  raises.told (List.all_eq_true.2 writable)

theorem RaisesIf.overlong {f : Failure} {values : List Value} {kind : SigningError → Prop}
    (raises : f.RaisesIf (values.all isWritable) kind) {v : Value} (member : v ∈ values)
    (long : v.isWritable = false) : f = .overlong .written :=
  raises.unsaid (List.all_eq_false.2 ⟨v, member, by simp [long]⟩)

theorem raisesIf_raised (e : SigningError) {kind : SigningError → Prop} (own : kind e) :
    e.raised.RaisesIf (e.shown.all isWritable) kind := by
  cases writable : e.shown.all isWritable with
  | true =>
    obtain ⟨m, made⟩ := e.writesIf_message.made writable
    exact ⟨e, by rw [SigningError.raised, made], own⟩
  | false =>
    rw [RaisesIf, SigningError.raised, e.writesIf_message.failed writable]
    rfl

theorem raisesIf_ofMessage {message : Except Overlong String} {p : Bool}
    (writes : WritesIf message p) (c : Category) {kind : SigningError → Prop}
    (own : ∀ m, message = .ok m → kind (.plain c m)) : (ofMessage c message).RaisesIf p kind := by
  cases p with
  | true =>
    obtain ⟨m, rfl⟩ := writes
    exact ⟨_, rfl, own m rfl⟩
  | false =>
    rw [writes.failed rfl]
    rfl

end Failure
end SignatureRouting
