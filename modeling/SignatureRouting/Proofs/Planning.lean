import SignatureRouting.Proofs.Duties
import SignatureRouting.Proofs.Layout
import SignatureRouting.Proofs.Ledger

/-!
A build in two parts. Whether a step can be planned and what nodes it comes to depends on the step
and its place, and not on other steps; only the recording of its duty does. So a list of steps that
can all be planned is built if their duties are coherent, and is otherwise refused at the first one
that does not fit.
-/
namespace SignatureRouting
open Value

structure PlannedStep where
  plan : StepPlan
  specs : List NodeSpec

namespace PlannedStep

def duty (part : PlannedStep) : Duty := part.plan.duty

def nodes (part : PlannedStep) : List Node := part.specs.map NodeSpec.node

end PlannedStep

inductive Planned (setting : Setting) (documents : List Value) :
    Nat → List StepItem → List PlannedStep → Prop where
  | nil (first : Nat) : Planned setting documents first [] []
  | cons {first : Nat} {item : StepItem} {rest : List StepItem} {plan : StepPlan}
      {specs : List NodeSpec} {parts : List PlannedStep}
      (plans : setting.plan first item = .ok plan) (emits : plan.specs documents = .ok specs)
      (later : Planned setting documents (first + 1) rest parts) :
      Planned setting documents first (item :: rest) (⟨plan, specs⟩ :: parts)

section Planned
variable {setting : Setting} {documents : List Value} {first : Nat} {items : List StepItem}
  {parts : List PlannedStep}

theorem Planned.of_part (planned : Planned setting documents first items parts) {i : Nat}
    {part : PlannedStep} (found : parts[i]? = some part) :
    ∃ item, items[i]? = some item ∧ setting.plan (first + i) item = .ok part.plan ∧
      part.plan.specs documents = .ok part.specs := by
  induction planned generalizing i with
  | nil first => simp at found
  | @cons first item rest plan specs more plans emits later ih =>
    cases i with
    | zero =>
      obtain rfl := Option.some.inj found
      exact ⟨item, rfl, plans, emits⟩
    | succ i =>
      obtain ⟨other, at_i, planned, emitted⟩ := ih found
      refine ⟨other, at_i, ?_, emitted⟩
      rwa [Nat.add_right_comm, Nat.add_assoc] at planned

theorem Planned.acting (planned : Planned setting documents first items parts) :
    ∀ s ∈ parts.map PlannedStep.duty, s.actors ≠ [] := by
  intro s member
  obtain ⟨part, among, rfl⟩ := List.mem_map.1 member
  obtain ⟨i, found⟩ := List.mem_iff_getElem?.1 among
  obtain ⟨item, _, plans, _⟩ := planned.of_part found
  exact List.length_pos_iff.1 (Setting.plan_sound plans).1.some

theorem Planned.addSteps_eq (planned : Planned setting documents first items parts)
    (draft : Draft) :
    Draft.addSteps setting documents first items draft =
      (History.carryOutAll documents first (parts.map PlannedStep.duty) draft.history).map
        fun history =>
          ⟨parts.foldl (fun known part => unique (known ++ part.plan.actors)) draft.actors, history,
            draft.nodes ++ parts.flatMap PlannedStep.nodes⟩ := by
  induction planned generalizing draft with
  | nil first => simp [Draft.addSteps, History.carryOutAll, Except.map]
  | @cons first item rest plan specs more plans emits later ih =>
    cases carried : History.carryOut first plan.role.recorded plan.actors documents
        draft.history with
    | error e =>
      simp [Draft.addSteps, Draft.addStep, plans, carried, History.carryOutAll, PlannedStep.duty,
        StepPlan.duty, bind, Except.bind, Except.map]
    | ok next =>
      simp [Draft.addSteps, Draft.addStep, plans, emits, carried, ih, History.carryOutAll,
        PlannedStep.duty, StepPlan.duty, PlannedStep.nodes, bind, Except.bind, pure, Except.pure]

theorem exists_planned {before after : Draft}
    (ok : Draft.addSteps setting documents first items before = .ok after) :
    ∃ parts, Planned setting documents first items parts := by
  induction items generalizing first before with
  | nil => exact ⟨[], .nil first⟩
  | cons item rest ih =>
    rw [Draft.addSteps] at ok
    obtain ⟨next, one, ok⟩ := bind_eq_ok.1 ok
    obtain ⟨plan, _, specs, plans, _, emits, _⟩ := Draft.addStep_eq_ok one
    obtain ⟨parts, later⟩ := ih ok
    exact ⟨⟨plan, specs⟩ :: parts, .cons plans emits later⟩

end Planned

namespace Workflow

theorem checkDocuments_of_distinct {seen documents : List Value}
    (distinct : Distinct (seen ++ documents)) (identifiers : ∀ d ∈ documents, d.isIdentifier = true) :
    checkDocuments seen documents = .ok () := by
  induction documents generalizing seen with
  | nil => rfl
  | cons d rest ih =>
    obtain ⟨identifier, later⟩ := List.forall_mem_cons.1 identifiers
    have unseen : seen.contains d = false := distinct.apart List.mem_cons_self
    rw [checkDocuments, identifier, unseen]
    refine ih ?_ later
    rwa [List.append_assoc, List.singleton_append]

theorem documentIds_of_good {documents : List Value} (good : GoodDocuments documents) :
    documentIds (some documents) = .ok documents := by
  cases documents with
  | nil => exact absurd rfl good.some
  | cons d rest =>
    have checked : checkDocuments [] (d :: rest) = .ok () :=
      checkDocuments_of_distinct good.distinct good.identifiers
    simp only [documentIds, checked, Except.map]

theorem build_of_planned {setting : Setting} {documents : List Value} {items : List StepItem}
    {parts : List PlannedStep} (planned : Planned setting documents 0 items parts)
    (given : items ≠ []) (good : GoodDocuments documents) (history : History) :
    build setting history (some items) (some documents) =
      (History.carryOutAll documents 0 (parts.map PlannedStep.duty) history).map fun _ =>
        ⟨parts.foldl (fun known part => unique (known ++ part.plan.actors)) [], documents,
          ⟨parts.flatMap PlannedStep.nodes, 0⟩⟩ := by
  have added := planned.addSteps_eq (.start history)
  cases items with
  | nil => contradiction
  | cons item rest =>
    simp only [Draft.start, List.nil_append] at added
    simp only [build, documentIds_of_good good, Draft.start, added, bind, Except.bind]
    cases History.carryOutAll documents 0 (parts.map PlannedStep.duty) history with
    | error e => rfl
    | ok after => rfl

theorem planned_of_build {setting : Setting} {history : History} {items : List StepItem}
    {documents : Option (List Value)} {w : Workflow}
    (built : build setting history (some items) documents = .ok w) :
    ∃ parts, documents = some w.documents ∧ GoodDocuments w.documents ∧
      Planned setting w.documents 0 items parts ∧
      Coherent history w.documents (parts.map PlannedStep.duty) ∧
      w.automaton = ⟨parts.flatMap PlannedStep.nodes, 0⟩ := by
  obtain ⟨ids, _, draft, from_input, good, same, given, added, rfl⟩ := build_eq_ok built
  obtain rfl := Option.some.inj same
  obtain ⟨parts, planned⟩ := exists_planned added
  have result := build_of_planned planned given good history
  rw [← from_input, built] at result
  rcases carryOutAll_after (by simp) (History.extends_nil history ids) good.some good.distinct
      coherent_nil planned.acting 0 with ⟨after, ok, coherent⟩ | ⟨e, _, _, refused, _⟩
  · rw [ok] at result
    exact ⟨parts, from_input, good, planned, coherent,
      congrArg Workflow.automaton (Except.ok.inj result)⟩
  · rw [refused] at result
    cases result

end Workflow

end SignatureRouting
