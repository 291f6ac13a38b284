import SignatureRouting.Proofs.Outcome
import SignatureRouting.Scenario

/-!
The shape that a scenario has to have. Its check collects complaints step by step and setting by
setting, and it passes if there are none. What has to hold for that is told apart from the order in
which it is looked at: exactly the scenarios of the right shape pass. A check also ends at a number
that is too long for its complaint, so passing means that nothing is complained of and that nothing
stands in the way of saying so.
-/
namespace SignatureRouting
open Value

namespace Complaints

def IsNone (c : Complaints) : Prop := c.shape = [] ∧ c.conflicts = []

theorem isNone_none : Complaints.none.IsNone := ⟨rfl, rfl⟩

theorem isNone_append (a b : Complaints) : (a ++ b).IsNone ↔ a.IsNone ∧ b.IsNone := by
  have shape : (a ++ b).shape = a.shape ++ b.shape := rfl
  have conflicts : (a ++ b).conflicts = a.conflicts ++ b.conflicts := rfl
  simp only [IsNone, shape, conflicts, List.append_eq_nil_iff]
  exact and_and_and_comm

theorem isNone_foldl (collected : List Complaints) (start : Complaints) :
    (collected.foldl (· ++ ·) start).IsNone ↔ start.IsNone ∧ ∀ c ∈ collected, c.IsNone := by
  induction collected generalizing start with
  | nil => simp
  | cons c rest ih => rw [List.foldl_cons, ih, isNone_append, List.forall_mem_cons, and_assoc]

theorem not_isNone_ofShape (item : String) (rest : List String) :
    ¬ (ofShape (item :: rest)).IsNone := by
  rintro ⟨shape, _⟩
  contradiction

theorem isNone_shapeIf (p : Bool) (item : String) : (shapeIf p item).IsNone ↔ p = false := by
  cases p with
  | false => simp [shapeIf, isNone_none]
  | true => simp [shapeIf, not_isNone_ofShape]

def Passes (found : Except Overlong Complaints) : Prop := ∃ c, found = .ok c ∧ c.IsNone

theorem passes_pure (c : Complaints) : Passes (pure c) ↔ c.IsNone := by
  simp [Passes, pure, Except.pure]

theorem passes_none : Passes (pure none) := (passes_pure none).2 isNone_none

theorem not_passes_ofShape (item : String) (rest : List String) :
    ¬ Passes (pure (ofShape (item :: rest))) :=
  (passes_pure _).not.2 (not_isNone_ofShape item rest)

theorem not_passes_error (o : Overlong) : ¬ Passes (.error o) := by simp [Passes]

theorem not_passes_worded {text : Except Overlong String} {say : String → Complaints}
    (loud : ∀ t, ¬ (say t).IsNone) : ¬ Passes (do return say (← text)) := by
  rintro ⟨c, made, none⟩
  obtain ⟨t, _, same⟩ := bind_eq_ok.1 made
  obtain rfl := Except.ok.inj same
  exact loud t none

theorem passes_collect (found : List (Except Overlong Complaints)) :
    Passes (collect found) ↔ ∀ x ∈ found, Passes x := by
  constructor
  · rintro ⟨c, made, none⟩ x member
    obtain ⟨all, each, same⟩ := bind_eq_ok.1 made
    obtain rfl := Except.ok.inj same
    obtain ⟨i, inside, rfl⟩ := List.mem_iff_getElem.1 member
    have one_by_one := mapM_eq_ok.1 each
    have within : i < all.length := one_by_one.length_eq ▸ inside
    exact ⟨_, one_by_one.get inside within,
      ((isNone_foldl all _).1 none).2 _ (List.getElem_mem within)⟩
  · intro each
    obtain ⟨all, made, clear⟩ := exists_mapM each
    refine ⟨_, bind_eq_ok.2 ⟨all, made, rfl⟩, (isNone_foldl all _).2 ⟨isNone_none, ?_⟩⟩
    intro c member
    obtain ⟨i, inside, rfl⟩ := List.mem_iff_getElem.1 member
    exact clear.get (clear.length_eq ▸ inside) inside

end Complaints

def Scenario.formatNumber (scenario : Scenario) : Value :=
  (scenario.signatureFormat?.map fun f => Value.int f.number).getD .null

structure Step.WellShaped (step : Step) (resolver : Resolver) (format : Value) : Prop where
  process : ∃ role, resolver.resolve step.process = .found role
  tag : ∃ tag, step.tag? = .ok tag ∧ tag ≠ Tag.sign
  signature : resolver.resolve step.process = .found (.standard .signature) →
    ∃ type, SignatureType.ofSetting? step.signatureType = some type ∧
      type.isCompatible format = true
  cardinality : ∃ parsed, step.cardinality.parse = .ok parsed
  participants : step.participants ≠ some []

structure Scenario.WellShaped (scenario : Scenario) (resolver : Resolver) (items : List StepItem) :
    Prop where
  format : scenario.signatureFormat? ≠ none
  level : SignatureLevel.ofSetting? scenario.level ≠ none
  documents : scenario.documents ≠ some []
  some_step : items ≠ []
  each : ∀ item ∈ items, ∃ step, item = .step step ∧
    step.WellShaped resolver scenario.formatNumber

theorem any_isEmpty_eq_false {α : Type} {l? : Option (List α)} :
    l?.any List.isEmpty = false ↔ l? ≠ some [] := by
  cases l? with
  | none => simp
  | some l => cases l <;> simp

namespace Step
variable (step : Step) (i : Nat)

theorem passes_processComplaints (resolution : Resolution) :
    Complaints.Passes (step.processComplaints i resolution) ↔
      (∃ role, resolution = .found role) ∧ ∃ tag, step.tag? = .ok tag ∧ tag ≠ Tag.sign := by
  have bad : ¬ Complaints.Passes
      (do return .ofShape [s!"bad step[{i}].process tag '{← step.process.written}'"]) :=
    Complaints.not_passes_worded fun _ => Complaints.not_isNone_ofShape _ _
  cases resolution with
  | unset => exact iff_of_false (Complaints.not_passes_ofShape _ _) (by simp)
  | unknown => exact iff_of_false bad (by simp)
  | found role =>
    rw [processComplaints]
    simp only [Resolution.found.injEq, exists_eq', true_and]
    cases step.tag? with
    | error o => exact iff_of_false (Complaints.not_passes_error o) (by simp)
    | ok tag =>
      simp only [bind, Except.bind, Except.ok.injEq, exists_eq_left']
      by_cases sign : tag = Tag.sign
      · rw [if_pos sign]
        exact iff_of_false bad (not_not.2 sign)
      · rw [if_neg sign]
        exact iff_of_true Complaints.passes_none sign

theorem passes_signatureComplaints (scenario : Scenario) :
    Complaints.Passes (step.signatureComplaints i scenario.format) ↔
      ∃ type, SignatureType.ofSetting? step.signatureType = some type ∧
        type.isCompatible scenario.formatNumber = true := by
  unfold signatureComplaints
  cases SignatureType.ofSetting? step.signatureType with
  | none =>
    refine iff_of_false ?_ (by simp)
    exact Complaints.not_passes_worded fun _ => Complaints.not_isNone_ofShape _ _
  | some type =>
    simp only [Option.some.injEq, exists_eq_left']
    by_cases fits : type.isCompatible scenario.formatNumber = true
    · refine iff_of_true ?_ fits
      rw [Scenario.formatNumber, Scenario.signatureFormat?] at fits
      rw [if_pos fits]
      exact Complaints.passes_none
    · refine iff_of_false ?_ fits
      rw [Scenario.formatNumber, Scenario.signatureFormat?] at fits
      rw [if_neg fits]
      exact Complaints.not_passes_worded fun _ none => List.cons_ne_nil _ _ none.2

theorem passes_cardinalityComplaints :
    Complaints.Passes (step.cardinalityComplaints i) ↔
      ∃ parsed, step.cardinality.parse = .ok parsed := by
  unfold cardinalityComplaints
  cases step.cardinality with
  | settled c => exact iff_of_true Complaints.passes_none ⟨_, rfl⟩
  | authored raw =>
    simp only [Cardinality.Source.parse]
    cases Cardinality.parse raw with
    | ok c => exact iff_of_true Complaints.passes_none ⟨c, rfl⟩
    | error e =>
      refine iff_of_false ?_ (by simp)
      cases e with
      | unreadable shown =>
        exact Complaints.not_passes_worded fun _ => Complaints.not_isNone_ofShape _ _
      | overlong o => exact Complaints.not_passes_error o

theorem passes_complaints (resolver : Resolver) (scenario : Scenario) :
    Complaints.Passes (step.complaints i resolver scenario.format) ↔
      step.WellShaped resolver scenario.formatNumber := by
  have participants : Complaints.Passes
      (return .shapeIf (step.participants.any List.isEmpty) s!"step[{i}].participants") ↔
        step.participants ≠ some [] := by
    rw [Complaints.passes_pure, Complaints.isNone_shapeIf, any_isEmpty_eq_false]
  unfold complaints
  simp only [Complaints.passes_collect, List.forall_mem_cons, List.not_mem_nil, false_imp_iff,
    implies_true, and_true, passes_processComplaints, passes_cardinalityComplaints, participants]
  split
  · rename_i signs
    rw [passes_signatureComplaints]
    constructor
    · rintro ⟨⟨process, tag⟩, typed, cardinality, refers⟩
      exact ⟨process, tag, fun _ => typed, cardinality, refers⟩
    · intro shaped
      exact ⟨⟨shaped.process, shaped.tag⟩, shaped.signature signs, shaped.cardinality,
        shaped.participants⟩
  · rename_i other
    constructor
    · rintro ⟨⟨process, tag⟩, _, cardinality, refers⟩
      exact ⟨process, tag, fun signs => absurd signs other, cardinality, refers⟩
    · intro shaped
      exact ⟨⟨shaped.process, shaped.tag⟩, Complaints.passes_none, shaped.cardinality,
        shaped.participants⟩

end Step

theorem StepItem.passes_complaints (item : StepItem) (i : Nat) (resolver : Resolver)
    (scenario : Scenario) :
    Complaints.Passes (item.complaints i resolver scenario.format) ↔
      ∃ step, item = .step step ∧ step.WellShaped resolver scenario.formatNumber := by
  cases item with
  | step step => simp [complaints, Step.passes_complaints]
  | other value => exact iff_of_false (Complaints.not_passes_ofShape _ _) (by simp)

namespace Scenario
variable {scenario : Scenario} {resolver : Resolver}

theorem isNone_settingComplaints :
    scenario.settingComplaints.IsNone ↔ scenario.signatureFormat? ≠ none ∧
      SignatureLevel.ofSetting? scenario.level ≠ none ∧ scenario.documents ≠ some [] := by
  rw [settingComplaints, Complaints.isNone_append, Complaints.isNone_append,
    Complaints.isNone_shapeIf, Complaints.isNone_shapeIf, Complaints.isNone_shapeIf,
    any_isEmpty_eq_false, Option.isNone_eq_false_iff, Option.isNone_eq_false_iff, Option.isSome_iff_ne_none,
    Option.isSome_iff_ne_none, and_assoc]

theorem passes_stepComplaints (items : List StepItem) :
    Complaints.Passes (scenario.stepComplaints resolver items) ↔
      ∀ item ∈ items, ∃ step, item = .step step ∧
        step.WellShaped resolver scenario.formatNumber := by
  rw [stepComplaints, Complaints.passes_collect]
  simp only [List.mem_mapIdx]
  constructor
  · intro none item member
    obtain ⟨i, inside, rfl⟩ := List.mem_iff_getElem.1 member
    exact (StepItem.passes_complaints _ i resolver scenario).1 (none _ ⟨i, inside, rfl⟩)
  · rintro shaped c ⟨i, inside, rfl⟩
    exact (StepItem.passes_complaints _ i resolver scenario).2 (shaped _ (List.getElem_mem inside))

theorem check_eq_ok_iff_validate :
    scenario.check resolver = .ok () ↔
      ∃ complaints, scenario.validate resolver = .ok complaints ∧ complaints.IsNone := by
  unfold check
  cases scenario.validate resolver with
  | error e => simp
  | ok complaints =>
    obtain ⟨shape, conflicts⟩ := complaints
    cases shape <;> cases conflicts <;> simp [Complaints.IsNone]

theorem check_eq_ok_iff :
    scenario.check resolver = .ok () ↔
      ∃ items, scenario.steps = some items ∧ scenario.WellShaped resolver items := by
  rw [check_eq_ok_iff_validate]
  unfold validate
  cases scenario.steps with
  | none => simp
  | some items =>
    simp only [Option.some.injEq, exists_eq_left']
    cases items with
    | nil =>
      refine iff_of_false ?_ fun shaped => shaped.some_step rfl
      simp [Complaints.isNone_append, Complaints.not_isNone_ofShape]
    | cons item rest =>
      constructor
      · rintro ⟨_, made, none⟩
        obtain ⟨found, collected, same⟩ := bind_eq_ok.1 made
        obtain rfl := Except.ok.inj same
        obtain ⟨setting, steps⟩ := (Complaints.isNone_append _ _).1 none
        obtain ⟨format, level, documents⟩ := isNone_settingComplaints.1 setting
        exact ⟨format, level, documents, List.cons_ne_nil _ _,
          (passes_stepComplaints _).1 ⟨found, mapError_eq_ok.1 collected, steps⟩⟩
      · intro shaped
        obtain ⟨found, collected, steps⟩ := (passes_stepComplaints _).2 shaped.each
        have setting := isNone_settingComplaints.2 ⟨shaped.format, shaped.level, shaped.documents⟩
        exact ⟨_, bind_eq_ok.2 ⟨found, mapError_eq_ok.2 collected, rfl⟩,
          (Complaints.isNone_append _ _).2 ⟨setting, steps⟩⟩

end Scenario

end SignatureRouting
