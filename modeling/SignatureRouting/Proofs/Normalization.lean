import SignatureRouting.Proofs.Compilation
import SignatureRouting.Proofs.Lowering

/-!
Tags in the place of processes. The tag of a step is its own normal form, and under a policy it
resolves as the process does. All else that is made of a step is made of its tag, so steps whose
processes are replaced by their tags come to the same workflow. A refusal is the same too, but that
it shows the process as it is authored.
-/
namespace SignatureRouting

namespace Step

def tagged (step : Step) : Step := { step with process := .text step.tag }

def IsWorded (step : Step) : Prop := step.process = .null ∨ ∃ s, step.process = .text s

theorem tag?_of_text {step : Step} {s : String} (given : step.process = .text s) :
    step.tag? = .ok (normalize s) := by
  rw [tag?, given]
  rfl

theorem tag_of_text {step : Step} {s : String} (given : step.process = .text s) :
    step.tag = normalize s := tag_of_tag? (tag?_of_text given)

theorem IsWorded.tag? {step : Step} (worded : step.IsWorded) : step.tag? = .ok step.tag := by
  rcases worded with absent | ⟨s, given⟩
  · rw [tag, Step.tag?, absent]
    rfl
  · rw [tag_of_text given, tag?_of_text given]

theorem normalize_tag (step : Step) : normalize step.tag = step.tag := by
  rw [tag, Step.tag?]
  split
  · decide
  · cases step.process.written with
    | ok s => exact normalize_normalize s
    | error o =>
      have empty : normalize "" = "" := by decide
      exact empty

section Fields
variable (step : Step)

@[simp] theorem process_tagged : step.tagged.process = .text step.tag := rfl
@[simp] theorem participants_tagged : step.tagged.participants = step.participants := rfl
@[simp] theorem signatureType_tagged : step.tagged.signatureType = step.signatureType := rfl
@[simp] theorem cardinality_tagged : step.tagged.cardinality = step.cardinality := rfl

@[simp] theorem tag?_tagged : step.tagged.tag? = .ok step.tag := by
  rw [tag?_of_text rfl, normalize_tag]

@[simp] theorem tag_tagged : step.tagged.tag = step.tag := tag_of_tag? step.tag?_tagged

end Fields

end Step

theorem TagPolicy.resolve_tag (policy : TagPolicy) {step : Step} (worded : step.IsWorded) :
    policy.resolve (.text step.tag) = policy.resolve step.process := by
  rcases worded with absent | ⟨s, given⟩
  · rw [Step.tag, Step.tag?, absent]
    rfl
  · rw [Step.tag_of_text given, given, resolve, resolve, normalize_normalize]

/-- The same outcome, but that a refusal may show a normal form where the other shows a process as
it is authored. -/
inductive Reworded {α : Type} : Except BuildError α → Except BuildError α → Prop where
  | same (x : Except BuildError α) : Reworded x x
  | process (place : Nat) (s : String) :
      Reworded (.error (.badProcess place (.text s)))
        (.error (.badProcess place (.text (normalize s))))

section Reworded
variable {α β : Type} {x y : Except BuildError α}

theorem Reworded.bind (reworded : Reworded x y) {f g : α → Except BuildError β}
    (next : ∀ a, Reworded (f a) (g a)) : Reworded (x >>= f) (y >>= g) := by
  cases reworded with
  | same =>
    cases x with
    | ok a => exact next a
    | error e => exact .same _
  | process place s => exact .process place s

theorem Reworded.ok_iff (reworded : Reworded x y) (a : α) : x = .ok a ↔ y = .ok a := by
  cases reworded with
  | same => rfl
  | process place s => simp

end Reworded

inductive StepItem.Retagged : StepItem → StepItem → Prop where
  | kept (item : StepItem) : Retagged item item
  | tagged {step : Step} (worded : step.IsWorded) : Retagged (.step step) (.step step.tagged)

namespace Setting
variable {setting : Setting} {policy : TagPolicy} (policed : setting.resolver = policy.resolver)
  (place : Nat)

section Step
variable (step : Step)

theorem checkSignatureType_tagged :
    setting.checkSignatureType place step.tagged = setting.checkSignatureType place step := by
  simp only [checkSignatureType, Step.signatureType_tagged]

theorem actors_tagged (role : StepRole) :
    setting.actors place step.tagged role = setting.actors place step role := by
  simp only [Setting.actors, Step.participants_tagged, Step.tag_tagged]

theorem quota_tagged (worded : step.IsWorded) (role : StepRole) (actors : Nat) :
    Setting.quota place step.tagged role actors = Setting.quota place step role actors := by
  simp only [Setting.quota, Step.quota, Step.cardinality_tagged, Step.tag_tagged,
    Step.tag?_tagged, worded.tag?]

end Step

include policed

theorem role_tagged {step : Step} (worded : step.IsWorded) :
    Reworded (setting.role place step) (setting.role place step.tagged) := by
  have alike := policy.resolve_tag worded
  simp only [Setting.role, policed, TagPolicy.resolver, Step.tag?_tagged, worded.tag?,
    Step.process_tagged, alike, Except.mapError, bind, Except.bind, pure, Except.pure]
  rcases worded with absent | ⟨s, given⟩
  · -- A process that was left out is reported as missing, and is not shown.
    rw [absent, TagPolicy.resolve]
    exact .same _
  · rw [given, Step.tag_of_text given]
    split
    · exact .same _
    · exact .process place s
    · split
      · exact .process place s
      · exact .same _

/-- The process decides about the role and is shown where it gives none; the rest of the plan is
made from the tag. -/
theorem plan_retagged {item other : StepItem} (retagged : item.Retagged other) :
    Reworded (setting.plan place item) (setting.plan place other) := by
  cases retagged with
  | kept => exact .same _
  | tagged worded =>
    rename_i step
    refine (role_tagged policed place worded).bind fun role => ?_
    simp only [checkSignatureType_tagged, actors_tagged, quota_tagged place step worded,
      Step.tag_tagged]
    exact .same _

end Setting

namespace Draft
variable {setting : Setting} {policy : TagPolicy} (policed : setting.resolver = policy.resolver)
  (documents : List Value)
include policed

theorem addStep_retagged (draft : Draft) (place : Nat) {item other : StepItem}
    (retagged : item.Retagged other) :
    Reworded (draft.addStep setting documents place item)
      (draft.addStep setting documents place other) :=
  (Setting.plan_retagged policed place retagged).bind fun _ => .same _

theorem addSteps_retagged {items others : List StepItem}
    (retagged : List.Forall₂ StepItem.Retagged items others) (place : Nat) (draft : Draft) :
    Reworded (addSteps setting documents place items draft)
      (addSteps setting documents place others draft) := by
  induction retagged generalizing place draft with
  | nil => exact .same _
  | cons first _ ih =>
    exact (draft.addStep_retagged policed documents place first).bind
      fun next => ih (place + 1) next

end Draft

theorem Workflow.build_retagged {setting : Setting} {policy : TagPolicy}
    (policed : setting.resolver = policy.resolver) {items others : List StepItem}
    (retagged : List.Forall₂ StepItem.Retagged items others) (history : History)
    (documents : Option (List Value)) :
    Reworded (build setting history (some items) documents)
      (build setting history (some others) documents) := by
  refine Reworded.bind (.same _) fun ids => ?_
  cases retagged with
  | nil => exact .same _
  | cons first rest =>
    exact (Draft.addSteps_retagged policed ids (.cons first rest) 0 _).bind fun _ => .same _

/-- Normal forms are normal. So under a policy the tag of a step resolves as its process does, and
steps whose processes are replaced by their tags are built to the same workflow, or are refused as
before but for the process that is shown. -/
theorem tags_stand_for_processes :
    (∀ s, normalize (normalize s) = normalize s) ∧
    ∀ policy : TagPolicy,
      (∀ (step : Step) (s : String), step.process = .text s →
        policy.resolve (.text step.tag) = policy.resolve step.process) ∧
      ∀ setting : Setting, setting.resolver = policy.resolver →
        ∀ (history : History) (items others : List StepItem) (documents : Option (List Value)),
          List.Forall₂ StepItem.Retagged items others →
          (∀ w, Workflow.build setting history (some items) documents = .ok w ↔
            Workflow.build setting history (some others) documents = .ok w) ∧
          Reworded (Workflow.build setting history (some items) documents)
            (Workflow.build setting history (some others) documents) := by
  refine ⟨normalize_normalize, fun policy => ⟨?_, ?_⟩⟩
  · intro step s given
    exact policy.resolve_tag (Or.inr ⟨s, given⟩)
  · intro setting policed history items others documents retagged
    have reworded := Workflow.build_retagged policed retagged history documents
    exact ⟨reworded.ok_iff, reworded⟩

example : (⟨["5"]⟩ : TagPolicy).resolve (.int 5) = .unknown ∧
    (⟨["5"]⟩ : TagPolicy).resolve (.text "5") = .found (.standard .approval) := ⟨rfl, rfl⟩

def bureau : Setting where
  resolver := TagPolicy.resolver ⟨[Tag.approval, "έλεγχος"]⟩
  participants := agency.participants

def inspection : Step where
  process := .text " ΈΛΕΓΧΟΣ"
  participants := some [.text "a", .text "b"]

/-- The last sigma of a word has a form of its own in lower case, and keeps it. -/
theorem tags_stand_for_processes_in_greek :
    inspection.tagged.process = .text "έλεγχος" ∧
      ∃ w, Workflow.build bureau .empty (some [.step inspection]) (some [.int 10]) = .ok w ∧
        Workflow.build bureau .empty (some [.step inspection.tagged]) (some [.int 10]) = .ok w := by
  have tag : normalize " ΈΛΕΓΧΟΣ" = "έλεγχος" := by decide +kernel
  have passes : (Workflow.build bureau .empty (some [.step inspection])
      (some [.int 10])).isOk = true := by decide +kernel
  have retagged : List.Forall₂ StepItem.Retagged [.step inspection] [.step inspection.tagged] :=
    .cons (.tagged (Or.inr ⟨_, rfl⟩)) .nil
  obtain ⟨_, building⟩ := tags_stand_for_processes.2 ⟨[Tag.approval, "έλεγχος"]⟩
  obtain ⟨same, _⟩ := building bureau rfl .empty _ _ (some [.int 10]) retagged
  cases built : Workflow.build bureau .empty (some [.step inspection]) (some [.int 10]) with
  | ok w =>
    refine ⟨?_, w, rfl, (same w).1 built⟩
    rw [Step.process_tagged, Step.tag_of_text rfl, tag]
  | error e =>
    rw [built] at passes
    exact absurd passes Bool.false_ne_true

end SignatureRouting
