import SignatureRouting.Tag

/-!
Authored steps. A step names its process, its participants, the type of the signatures it asks for
and its cardinality; none of them is checked when it is authored. The elements of a list of steps
may be other values, which are kept so that they can be refused at their place.

A cardinality says how many participants have to act on each document: one, all of them, or a given
number. An authored one is the word for one of the first two, in any case and with blanks around
it, or a positive number as an integer or in ASCII digits. A cardinality that is settled already is
not checked, so its number may be any value.
-/
namespace SignatureRouting

inductive Cardinality where
  | one
  | all
  | exact (count : Value)
  deriving Repr

namespace Cardinality

inductive Source where
  | authored (raw : Value)
  | settled (cardinality : Cardinality)

inductive Malformed where
  /-- It has none of the forms; the refusal shows this value. -/
  | unreadable (shown : Value)
  | overlong (o : Overlong)

def refuse (shown : Value) : Malformed :=
  match shown.quoted with
  | .ok _ => .unreadable shown
  | .error o => .overlong o

def positive (n : Int) : Except Malformed Cardinality :=
  if 0 < n then .ok (exact (.int n)) else .error (refuse (.int n))

def ofText (s : String) : Except Malformed Cardinality :=
  let text := normalize s
  if text = "one" then .ok one
  else if text = "all" then .ok all
  else match plainDigits? text.toList with
    | none => .error (refuse (.text s))
    | some digits =>
      if numeralLimit < digits.length then .error (.overlong (.read digits.length))
      else positive (ofDigits digits)

/-- `none` stands for a cardinality that was left open. -/
def parse : Value → Except Malformed (Option Cardinality)
  | .null => .ok none
  | .text s => (ofText s).map some
  | .int n => (positive n).map some
  | v => .error (refuse v)

def Source.parse : Source → Except Malformed (Option Cardinality)
  | authored raw => Cardinality.parse raw
  | settled c => .ok (some c)

def resolve (participants : Value) : Cardinality → Value
  | one => .int 1
  | all => participants
  | exact count => count

/-- What an open cardinality means: everybody signs, except that a cosign step needs one signer,
and one participant is enough for the other roles, which do not look at the tag. -/
def byDefault (role : StepRole) (tag : Except Overlong String) : Except Malformed Cardinality :=
  match role with
  | .standard .signature => do return if (← tag.mapError .overlong) = Tag.cosign then one else all
  | _ => return one

theorem refuse_eq (shown : Value) :
    refuse shown = if shown.isWritable then .unreadable shown else .overlong .written := by
  unfold refuse
  cases writable : shown.isWritable with
  | true =>
    obtain ⟨text, made⟩ := shown.writesIf_quoted.made writable
    rw [made]
    rfl
  | false =>
    rw [shown.writesIf_quoted.failed writable]
    rfl

end Cardinality

structure Step where
  process : Value
  participants : Option (List Value) := some []
  signatureType : Value := .null
  cardinality : Cardinality.Source := .authored .null

inductive StepItem where
  | step (step : Step)
  | other (value : Value)

namespace Step

def tag? (step : Step) : Except Overlong String :=
  match step.process with
  | .null => .ok ""
  | process => process.written.map normalize

/-- The tag of a step that has one. A step is refused before its tag is used if it has none. -/
def tag (step : Step) : String := step.tag?.toOption.getD ""

def quota (step : Step) (role : StepRole) (participants : Value) :
    Except Cardinality.Malformed Value := do
  match ← step.cardinality.parse with
  | some cardinality => return cardinality.resolve participants
  | none => return (← Cardinality.byDefault role step.tag?).resolve participants

theorem tag_of_tag? {step : Step} {tag : String} (written : step.tag? = .ok tag) :
    step.tag = tag := by
  rw [Step.tag, written]
  rfl

theorem writesIf_tag? (step : Step) : WritesIf step.tag? step.process.isWritable := by
  cases given : step.process with
  | null => exact ⟨"", by rw [tag?, given]⟩
  | _ =>
    rw [tag?, given]
    exact (Value.writesIf_written _).map normalize

end Step
end SignatureRouting
