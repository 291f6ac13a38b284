import SignatureRouting.Proofs.Compilation
import SignatureRouting.Proofs.Shape

/-!
Scenarios that can be built, and what their check says of them. The check reads a signature type
strictly, so that true is not the number one, while a build reads it by its number alone. This is
the only thing in which a build lets more through: of a scenario that can be built the check
complains exactly about the signing steps whose type is authored as true.
-/
namespace SignatureRouting
open Value

theorem SignatureType.true_of_ofValue? {b : Bool} {type : SignatureType}
    (read : ofValue? (.bool b) = some type) : b = true := by
  cases b with
  | true => rfl
  | false => contradiction

def Value.isTrue : Value → Bool
  | bool b => b
  | _ => false

def StepItem.isTypedTrue (resolver : Resolver) : StepItem → Bool
  | step s =>
    match resolver.resolve s.process with
    | .found (.standard .signature) => s.signatureType.isTrue
    | _ => false
  | other _ => false

def trueComplaint (place : Nat) : String := s!"bad step[{place}].signatureType:" ++ "True"

theorem Setting.type_of_checkSignatureType {setting : Setting} {place : Nat} {step : Step}
    (typed : setting.checkSignatureType place step = .ok ()) :
    ∃ type, SignatureType.ofValue? step.signatureType = some type ∧
      type.isCompatible setting.format = true := by
  unfold checkSignatureType at typed
  split at typed
  · contradiction
  · rename_i type read
    split at typed
    · rename_i fits
      exact ⟨type, read, fits⟩
    · contradiction

namespace Complaints

theorem none_append (c : Complaints) : none ++ c = c := rfl

theorem append_none (c : Complaints) : c ++ none = c :=
  congrArg₂ Complaints.mk (List.append_nil c.shape) (List.append_nil c.conflicts)

theorem eq_none {c : Complaints} (silent : c.IsNone) : c = none :=
  congrArg₂ Complaints.mk silent.1 silent.2

theorem eq_none_of_passes {found : Except Overlong Complaints} (passes : Passes found) :
    found = .ok none := by
  obtain ⟨c, rfl, silent⟩ := passes
  exact congrArg Except.ok (eq_none silent)

theorem collect_ok (found : List Complaints) :
    collect (found.map .ok) = .ok (found.foldl (· ++ ·) none) := by
  have each : (found.map .ok).mapM id = Except.ok (ε := Overlong) found := by
    rw [mapM_eq_ok, List.forall₂_map_left_iff]
    exact List.forall₂_same.2 fun _ _ => rfl
  exact bind_eq_ok.2 ⟨found, each, rfl⟩

theorem foldl_shapeIf {α : Type} (p : α → Bool) (item : α → String) (l : List α)
    (shape : List String) :
    (l.map fun x => shapeIf (p x) (item x)).foldl (· ++ ·) (ofShape shape) =
      ofShape (shape ++ (l.filter p).map item) := by
  induction l generalizing shape with
  | nil => simp
  | cons x rest ih =>
    rw [List.map_cons, List.foldl_cons, List.filter_cons]
    cases p x with
    | false =>
      rw [shapeIf, if_neg Bool.false_ne_true, append_none, ih]
      rfl
    | true =>
      rw [show ofShape shape ++ shapeIf true (item x) = ofShape (shape ++ [item x]) from rfl, ih]
      simp

end Complaints

namespace Step
variable {step : Step} {scenario : Scenario} {type : SignatureType}

theorem signatureComplaints_of_read (place : Nat)
    (read : SignatureType.ofValue? step.signatureType = some type)
    (fits : type.isCompatible scenario.formatNumber = true) :
    step.signatureComplaints place scenario.format =
      .ok (.shapeIf step.signatureType.isTrue (trueComplaint place)) := by
  cases authored : step.signatureType with
  | bool b =>
    rw [authored] at read
    obtain rfl := SignatureType.true_of_ofValue? read
    rw [signatureComplaints, authored]
    rfl
  | _ =>
    apply Complaints.eq_none_of_passes
    apply (step.passes_signatureComplaints place scenario).2
    refine ⟨type, ?_, fits⟩
    rw [authored] at read ⊢
    exact read

end Step

namespace Setting
variable {setting : Setting} {place : Nat} {plan : StepPlan}

/-- What is checked of a step that can be planned is in order, apart from a type that is true. -/
theorem complaints_of_planned {item : StepItem} (planned : setting.plan place item = .ok plan)
    {scenario : Scenario} (format : setting.format = scenario.formatNumber) :
    item.complaints place setting.resolver scenario.format =
      .ok (.shapeIf (item.isTypedTrue setting.resolver) (trueComplaint place)) := by
  cases item with
  | other value => contradiction
  | step step =>
    obtain ⟨role, actors, quota, resolved, typed, listed, counted, rfl⟩ := planStep_eq_ok planned
    obtain ⟨resolves, written, no_sign⟩ := role_eq_ok resolved
    have process : step.processComplaints place (.found role) = .ok .none :=
      Complaints.eq_none_of_passes ((step.passes_processComplaints place _).2
        ⟨⟨role, rfl⟩, step.tag, written, no_sign⟩)
    have cardinality : step.cardinalityComplaints place = .ok .none := by
      obtain ⟨parsed, read, _⟩ := bind_eq_ok.1 (quota_eq_ok counted).1
      exact Complaints.eq_none_of_passes
        ((step.passes_cardinalityComplaints place).2 ⟨parsed, read⟩)
    have participants : step.participants.any List.isEmpty = false := by
      unfold Setting.actors at listed
      split at listed
      · contradiction
      · contradiction
      · rename_i references some given
        simpa [given] using some
    simp only [StepItem.complaints, Step.complaints, StepItem.isTypedTrue, resolves, process,
      cardinality, participants]
    cases role with
    | foreign value => rfl
    | standard role =>
      cases role with
      | signature =>
        obtain ⟨type, read, fits⟩ := type_of_checkSignatureType (typed rfl)
        rw [format] at fits
        dsimp only
        rw [Step.signatureComplaints_of_read place read fits]
        exact congrArg Except.ok ((Complaints.append_none _).trans (Complaints.append_none _))
      | _ => rfl

end Setting

theorem Planned.plan_at {setting : Setting} {documents : List Value} {first : Nat}
    {items : List StepItem} {parts : List PlannedStep}
    (planned : Planned setting documents first items parts) {i : Nat} {item : StepItem}
    (listed : items[i]? = some item) :
    ∃ plan, setting.plan (first + i) item = .ok plan := by
  induction planned generalizing i with
  | nil first => simp at listed
  | @cons first other rest plan specs parts plans emits later ih =>
    cases i with
    | zero =>
      obtain rfl := Option.some.inj listed
      exact ⟨plan, plans⟩
    | succ i =>
      obtain ⟨plan, plans⟩ := ih listed
      rw [Nat.add_right_comm] at plans
      exact ⟨plan, plans⟩

namespace Scenario
variable {scenario : Scenario} {resolver : Resolver}

def typedTrue (resolver : Resolver) (items : List StepItem) : List (StepItem × Nat) :=
  items.zipIdx.filter fun entry => entry.1.isTypedTrue resolver

theorem stepComplaints_of_planned {participants : List (String × Participant)}
    {documents : List Value} {items : List StepItem} {parts : List PlannedStep}
    (planned : Planned ⟨resolver, participants, scenario.formatNumber⟩ documents 0 items parts) :
    scenario.stepComplaints resolver items =
      .ok (.ofShape ((typedTrue resolver items).map fun entry => trueComplaint entry.2)) := by
  have each : (items.mapIdx fun i item => item.complaints i resolver scenario.format) =
      (items.zipIdx.map fun entry =>
        .shapeIf (entry.1.isTypedTrue resolver) (trueComplaint entry.2)).map .ok := by
    rw [List.mapIdx_eq_zipIdx_map, List.map_map]
    apply List.map_congr_left
    intro entry member
    obtain ⟨plan, plans⟩ := planned.plan_at (List.mem_zipIdx_iff_getElem?.1 member)
    rw [Nat.zero_add] at plans
    exact Setting.complaints_of_planned plans rfl
  rw [stepComplaints, each, Complaints.collect_ok]
  exact congrArg Except.ok (Complaints.foldl_shapeIf _ _ _ [])

theorem typedTrue_eq_nil_iff {items : List StepItem} :
    typedTrue resolver items = [] ↔ ∀ item ∈ items, item.isTypedTrue resolver = false := by
  rw [typedTrue, List.filter_eq_nil_iff]
  constructor
  · intro untrue item member
    obtain ⟨i, listed⟩ := List.mem_iff_getElem?.1 member
    exact Bool.eq_false_iff.2 (untrue (item, i) (List.mem_zipIdx_iff_getElem?.2 listed))
  · intro untrue entry member
    have listed := List.mem_of_getElem? (List.mem_zipIdx_iff_getElem?.1 member)
    exact Bool.eq_false_iff.1 (untrue entry.1 listed)

theorem settingComplaints_eq_none (format : scenario.signatureFormat? ≠ none)
    (level : SignatureLevel.ofSetting? scenario.level ≠ none)
    (documents : scenario.documents ≠ some []) : scenario.settingComplaints = .none :=
  Complaints.eq_none (isNone_settingComplaints.2 ⟨format, level, documents⟩)

end Scenario

/-- Of a scenario that can be built the check complains only of types that are authored as true,
and of all of them. -/
theorem built_complained_of_for_true {resolver : Resolver}
    {participants : List (String × Participant)} {history : History} {scenario : Scenario}
    {w : Workflow} (format : scenario.signatureFormat? ≠ none)
    (level : SignatureLevel.ofSetting? scenario.level ≠ none)
    (built : Workflow.build ⟨resolver, participants, scenario.formatNumber⟩ history scenario.steps
      scenario.documents = .ok w) :
    ∃ items complaints, scenario.steps = some items ∧ scenario.validate resolver = .ok complaints ∧
      complaints.conflicts = [] ∧
      complaints.shape =
        (Scenario.typedTrue resolver items).map (fun entry => trueComplaint entry.2) ∧
      (complaints.IsNone ↔ ∀ item ∈ items, item.isTypedTrue resolver = false) := by
  obtain ⟨ids, items, _, listed, good, given, some_item, _, _⟩ := Workflow.build_eq_ok built
  rw [given] at built
  obtain ⟨parts, _, _, planned, _⟩ := Workflow.planned_of_build built
  have some_document : scenario.documents ≠ some [] := by
    rw [listed]
    exact fun empty => good.some (Option.some.inj empty)
  have validated : scenario.validate resolver =
      .ok (.ofShape ((Scenario.typedTrue resolver items).map fun entry =>
        trueComplaint entry.2)) := by
    obtain ⟨item, rest, rfl⟩ := List.exists_cons_of_ne_nil some_item
    rw [Scenario.validate, given]
    simp only [Scenario.settingComplaints_eq_none format level some_document,
      Scenario.stepComplaints_of_planned planned, Except.mapError, bind, Except.bind,
      Complaints.none_append]
    rfl
  refine ⟨items, _, given, validated, rfl, rfl, ?_⟩
  rw [← Scenario.typedTrue_eq_nil_iff]
  constructor
  · exact fun silent => List.map_eq_nil_iff.1 silent.1
  · intro untrue
    rw [untrue]
    exact Complaints.isNone_none

def approvedAndSigned : Scenario where
  documents := some [.int 10]
  steps := some
    [.step { process := .text "approval", participants := some [.text "a"],
             signatureType := .bool true },
     .step { process := .text "Cosign", participants := some [.text "b"],
             signatureType := .bool true, cardinality := .authored (.text "all") },
     .step { process := .text "countersign", participants := some [.text "c"],
             signatureType := .float (.finite false 1 0) }]
  format := .int 1
  level := .int 2

theorem approved_and_signed_complained_of :
    ∃ complaints,
      approvedAndSigned.validate TagPolicy.builtIn.resolver = .ok complaints ∧
      complaints.conflicts = [] ∧ complaints.shape = ["bad step[1].signatureType:True"] := by
  have built : ∃ w, Workflow.build
      ⟨TagPolicy.builtIn.resolver, agency.participants, approvedAndSigned.formatNumber⟩ .empty
      approvedAndSigned.steps approvedAndSigned.documents = .ok w := ⟨_, rfl⟩
  obtain ⟨w, built⟩ := built
  obtain ⟨items, complaints, given, validated, conflicts, shape, _⟩ :=
    built_complained_of_for_true (by decide) (by decide) built
  refine ⟨complaints, validated, conflicts, ?_⟩
  rw [shape, ← Option.some.inj given]
  rfl

def signedAsTrue : Scenario where
  documents := some [.int 10]
  steps := some [.step { process := .text "cosign", participants := some [.text "b"],
                         signatureType := .bool true }]
  format := .int 1
  level := .int 2

theorem signed_as_true_built_but_complained_of :
    signedAsTrue.signatureFormat? ≠ none ∧ SignatureLevel.ofSetting? signedAsTrue.level ≠ none ∧
    (∃ w, Workflow.build
      ⟨TagPolicy.builtIn.resolver, agency.participants, signedAsTrue.formatNumber⟩ .empty
      signedAsTrue.steps signedAsTrue.documents = .ok w) ∧
    ¬ ∃ complaints, signedAsTrue.validate TagPolicy.builtIn.resolver = .ok complaints ∧
      complaints.IsNone := by
  refine ⟨by decide, by decide, ⟨_, rfl⟩, ?_⟩
  have validated : signedAsTrue.validate TagPolicy.builtIn.resolver =
    .ok (.ofShape ["bad step[0].signatureType:True"]) := rfl
  rintro ⟨complaints, other, silent⟩
  obtain rfl := Except.ok.inj (validated.symm.trans other)
  exact Complaints.not_isNone_ofShape _ _ silent

end SignatureRouting
