import SignatureRouting.Proofs.Planning

/-!
What authored steps come to. A step is resolved to a role, to the actors that its references stand
for and to the number of them that complete a document, and from these alone its nodes follow: one
for all actors, or one for each of them where they sign one after the other. A build puts the nodes
of its steps one after the other, all of them untouched, and stands at the first.
-/
namespace SignatureRouting
open Value

def Node.blank (place : Nat) (tag : String) (documents : List Value) (role : Role)
    (actors : List Value) (quota : Nat) : Node where
  step := .int place
  role := role
  tag := .text tag
  actors := actors
  opened := documents.map .fresh
  quota := .int quota

/-- What a step asks for: which actors, in which role, and how many of them for each document. -/
structure Brief where
  place : Nat
  tag : String
  role : Role
  actors : List Value
  quota : Nat

def Brief.nodes (documents : List Value) (b : Brief) : List Node :=
  match b.role with
  | .approval => [.blank b.place b.tag documents .approval b.actors b.quota]
  | .signature =>
    if b.tag = Tag.countersign ∨ b.tag = Tag.orderedCosign then
      b.actors.map fun v => .blank b.place b.tag documents .signature [v] 1
    else [.blank b.place b.tag documents .signature b.actors b.quota]
  | .expedition => [.blank b.place b.tag documents .expedition b.actors b.actors.length]

structure Setting.Briefs (setting : Setting) (step : Step) (b : Brief) : Prop where
  tag : b.tag = step.tag
  role : setting.resolver.resolve step.process = .found (.standard b.role)
  process : b.role = .signature →
    b.tag ∈ [Tag.cosign, Tag.individualSign, Tag.countersign, Tag.orderedCosign]
  actors : ∃ references, step.participants = some references ∧
    references.map setting.actor? = b.actors.map some
  somebody : b.actors ≠ []
  distinct : Distinct b.actors
  quota : step.quota (.standard b.role) (.int b.actors.length) = .ok (.int b.quota)
  least : 1 ≤ b.quota
  most : b.quota ≤ b.actors.length

def Step.IsAuthored (step : Step) : Prop := ∃ raw, step.cardinality = .authored raw

namespace Cardinality

theorem exact_of_positive {n : Int} {c : Cardinality} (ok : positive n = .ok c) :
    c = exact (.int n) := by
  unfold positive at ok
  split at ok
  · exact (Except.ok.inj ok).symm
  · contradiction

theorem exact_of_text {s : String} {count : Value} (ok : ofText s = .ok (exact count)) :
    ∃ n : Int, count = .int n := by
  unfold ofText at ok
  generalize normalize s = text at ok
  dsimp only at ok
  split at ok
  · cases ok
  · split at ok
    · cases ok
    · split at ok
      · contradiction
      · split at ok
        · contradiction
        · cases exact_of_positive ok
          exact ⟨_, rfl⟩

theorem exact_of_parse {raw count : Value} (ok : parse raw = .ok (some (exact count))) :
    ∃ n : Int, count = .int n := by
  have inside : ∀ {x : Except Malformed Cardinality}, x.map some = .ok (some (exact count)) →
      x = .ok (exact count) := by
    intro x mapped
    cases x with
    | error e => cases mapped
    | ok c => exact congrArg Except.ok (Option.some.inj (Except.ok.inj mapped))
  cases raw with
  | text s =>
    rw [parse] at ok
    exact exact_of_text (inside ok)
  | int n =>
    cases exact_of_positive (inside ok)
    exact ⟨n, rfl⟩
  | null => simp [parse] at ok
  | _ => simp [parse] at ok

theorem resolve_int {c : Cardinality} (known : ∀ count, c = exact count → ∃ n : Int, count = .int n)
    (participants : Int) : ∃ n : Int, c.resolve (.int participants) = .int n := by
  cases c with
  | one => exact ⟨1, rfl⟩
  | all => exact ⟨participants, rfl⟩
  | exact count => exact known count rfl

end Cardinality

theorem Step.quota_int {step : Step} (authored : step.IsAuthored) {role : StepRole}
    {participants : Int} {quota : Value} (ok : step.quota role (.int participants) = .ok quota) :
    ∃ n : Int, quota = .int n := by
  obtain ⟨raw, source⟩ := authored
  obtain ⟨c, rfl, read | ⟨_, rfl | rfl⟩⟩ := Step.quota_eq_ok ok
  · rw [source] at read
    refine Cardinality.resolve_int (fun count same => ?_) participants
    subst same
    exact Cardinality.exact_of_parse read
  · exact ⟨1, rfl⟩
  · exact ⟨participants, rfl⟩

namespace Brief

def plan (b : Brief) : StepPlan := ⟨b.place, b.tag, .standard b.role, b.actors, .int b.quota⟩

theorem nodes_of_specs {b : Brief} {documents : List Value} {specs : List NodeSpec}
    (ok : b.plan.specs documents = .ok specs) :
    specs.map NodeSpec.node = b.nodes documents ∧ (b.role = .signature →
      b.tag ∈ [Tag.cosign, Tag.individualSign, Tag.countersign, Tag.orderedCosign]) := by
  obtain ⟨place, tag, role, actors, quota⟩ := b
  cases role with
  | approval =>
    obtain rfl := Except.ok.inj ok
    exact ⟨rfl, by simp⟩
  | expedition =>
    obtain rfl := Except.ok.inj ok
    exact ⟨rfl, by simp⟩
  | signature =>
    simp only [StepPlan.specs, plan] at ok
    by_cases turns : tag = Tag.countersign ∨ tag = Tag.orderedCosign
    · have apart : Tag.isShared tag = false := by
        rcases turns with rfl | rfl <;> decide
      have sequential : Tag.isSequential tag = true := by
        rcases turns with rfl | rfl <;> decide
      simp only [apart, sequential, Bool.false_eq_true, if_false, if_true, Except.ok.injEq] at ok
      subst ok
      constructor
      · simp [nodes, turns, Node.blank, NodeSpec.node]
      · rcases turns with rfl | rfl <;> simp
    · have sequential : Tag.isSequential tag = false := by
        simpa [Tag.isSequential] using turns
      simp only [sequential, Bool.false_eq_true, if_false] at ok
      split at ok
      · rename_i shared
        obtain rfl := Except.ok.inj ok
        simp only [Tag.isShared, Bool.or_eq_true, beq_iff_eq] at shared
        constructor
        · simp [nodes, turns, Node.blank, NodeSpec.node]
        · rcases shared with rfl | rfl <;> simp
      · contradiction

theorem nodes_ne_nil {b : Brief} (somebody : b.actors ≠ []) (documents : List Value) :
    b.nodes documents ≠ [] := by
  unfold nodes
  split
  · simp
  · split <;> simp [somebody]
  · simp

theorem of_mem_nodes {b : Brief} {documents : List Value} {n : Node}
    (member : n ∈ b.nodes documents) :
    ∃ actors quota, n = .blank b.place b.tag documents b.role actors quota ∧
      (actors = b.actors ∧ (quota = b.quota ∨ quota = b.actors.length) ∨
        ∃ v, actors = [v] ∧ quota = 1) := by
  obtain ⟨place, tag, role, actors, quota⟩ := b
  cases role with
  | approval =>
    obtain rfl := List.mem_singleton.1 member
    exact ⟨actors, quota, rfl, Or.inl ⟨rfl, Or.inl rfl⟩⟩
  | expedition =>
    obtain rfl := List.mem_singleton.1 member
    exact ⟨actors, actors.length, rfl, Or.inl ⟨rfl, Or.inr rfl⟩⟩
  | signature =>
    simp only [nodes] at member
    split at member
    · obtain ⟨v, _, rfl⟩ := List.mem_map.1 member
      exact ⟨[v], 1, rfl, Or.inr ⟨v, rfl, rfl⟩⟩
    · obtain rfl := List.mem_singleton.1 member
      exact ⟨actors, quota, rfl, Or.inl ⟨rfl, Or.inl rfl⟩⟩

theorem step_of_mem_nodes {b : Brief} {documents : List Value} {n : Node}
    (member : n ∈ b.nodes documents) : n.step = .int b.place := by
  obtain ⟨_, _, rfl, _⟩ := of_mem_nodes member
  rfl

theorem blank_of_mem_nodes {b : Brief} (somebody : b.actors ≠ []) (distinct : Distinct b.actors)
    (least : 1 ≤ b.quota) (most : b.quota ≤ b.actors.length) {documents : List Value} {n : Node}
    (member : n ∈ b.nodes documents) :
    ∃ actors quota, n = .blank b.place b.tag documents b.role actors quota ∧ actors ≠ [] ∧
      Distinct actors ∧ 1 ≤ quota ∧ quota ≤ actors.length := by
  obtain ⟨actors, quota, same, shape⟩ := of_mem_nodes member
  refine ⟨actors, quota, same, ?_⟩
  rcases shape with ⟨rfl, rfl | rfl⟩ | ⟨v, rfl, rfl⟩
  · exact ⟨somebody, distinct, least, most⟩
  · exact ⟨somebody, distinct, List.length_pos_iff.2 somebody, Nat.le_refl _⟩
  · exact ⟨List.cons_ne_nil _ _, List.nodup_singleton _, Nat.le_refl _, Nat.le_refl _⟩

end Brief

namespace Setting

theorem exists_brief {setting : Setting} {place : Nat} {documents : List Value} {item : StepItem}
    {plan : StepPlan} {specs : List NodeSpec} (plans : setting.plan place item = .ok plan)
    (emits : plan.specs documents = .ok specs)
    (authored : ∀ step, item = .step step → step.IsAuthored) :
    ∃ (step : Step) (b : Brief), item = .step step ∧ b.place = place ∧ setting.Briefs step b ∧
      specs.map NodeSpec.node = b.nodes documents := by
  obtain ⟨sound, _, _⟩ := plan_sound plans
  cases item with
  | other value => contradiction
  | step step =>
    obtain ⟨role, actors, quota, resolved, _, listed, counted, rfl⟩ := planStep_eq_ok plans
    obtain ⟨settled, _, _⟩ := quota_eq_ok counted
    obtain ⟨n, rfl⟩ := Step.quota_int (authored step rfl) settled
    have somebody : 0 < actors.length := sound.some
    have least : (Value.int n).lt (.int 1) = false := sound.least
    have most : (Value.int actors.length).lt (.int n) = false := sound.most
    rw [int_lt_int, decide_eq_false_iff_not] at least most
    obtain ⟨q, rfl⟩ : ∃ q : Nat, n = q := ⟨n.toNat, by omega⟩
    cases role with
    -- A foreign role can be planned, but no node can be made for it.
    | foreign value => simp [StepPlan.specs] at emits
    | standard role =>
      have briefed := Brief.nodes_of_specs (b := ⟨place, step.tag, role, actors, q⟩) emits
      refine ⟨step, ⟨place, step.tag, role, actors, q⟩, rfl, rfl, ?_, briefed.1⟩
      exact ⟨rfl, (role_eq_ok resolved).1, briefed.2, actors_named listed,
        List.length_pos_iff.1 somebody, sound.distinct, settled, by dsimp only; omega,
        by dsimp only; omega⟩

end Setting

theorem Planned.exists_briefs {setting : Setting} {documents : List Value} {first : Nat}
    {items : List StepItem} {parts : List PlannedStep}
    (planned : Planned setting documents first items parts)
    (authored : ∀ step, .step step ∈ items → step.IsAuthored) :
    ∃ briefs : List Brief, briefs.length = items.length ∧
      (∀ (i : Nat) (b : Brief), briefs[i]? = some b → b.place = first + i ∧
        ∃ step, items[i]? = some (.step step) ∧ setting.Briefs step b) ∧
      parts.flatMap PlannedStep.nodes = briefs.flatMap (Brief.nodes documents) := by
  induction planned with
  | nil first => exact ⟨[], rfl, by simp, rfl⟩
  | @cons first item rest plan specs parts plans emits later ih =>
    obtain ⟨briefs, length, each, nodes⟩ := ih fun step member =>
      authored step (List.mem_cons_of_mem _ member)
    obtain ⟨step, b, rfl, place, briefed, own⟩ := Setting.exists_brief plans emits
      fun step same => authored step (same ▸ List.mem_cons_self)
    refine ⟨b :: briefs, by simp [length], fun i c found => ?_, ?_⟩
    · cases i with
      | zero =>
        obtain rfl := Option.some.inj found
        exact ⟨place, step, rfl, briefed⟩
      | succ i =>
        obtain ⟨at_place, other⟩ := each i c found
        exact ⟨by omega, other⟩
    · rw [List.flatMap_cons, List.flatMap_cons, nodes, ← own]
      rfl

structure LaidOut (setting : Setting) (items : List StepItem) (briefs : List Brief)
    (w : Workflow) : Prop where
  length : briefs.length = items.length
  each : ∀ (i : Nat) (b : Brief), briefs[i]? = some b → b.place = i ∧
    ∃ step, items[i]? = some (.step step) ∧ setting.Briefs step b
  nodes : w.automaton.nodes = briefs.flatMap (Brief.nodes w.documents)

/-- A node that stands for an authored step and has not been touched. -/
def StandsFor (items : List StepItem) (w : Workflow) (n : Node) : Prop :=
  ∃ (place : Nat) (step : Step) (role : Role) (actors : List Value) (quota : Nat),
    items[place]? = some (.step step) ∧
      n = .blank place step.tag w.documents role actors quota ∧
      actors ≠ [] ∧ Distinct actors ∧ 1 ≤ quota ∧ quota ≤ actors.length

section LaidOut
variable {setting : Setting} {items : List StepItem} {briefs : List Brief} {w : Workflow}
  (laid : LaidOut setting items briefs w)
include laid

theorem LaidOut.standsFor {n : Node} (member : n ∈ w.automaton.nodes) : StandsFor items w n := by
  rw [laid.nodes] at member
  obtain ⟨b, among, own⟩ := List.mem_flatMap.1 member
  obtain ⟨i, found⟩ := List.mem_iff_getElem?.1 among
  obtain ⟨rfl, step, listed, briefed⟩ := laid.each i b found
  obtain ⟨actors, quota, same, bounds⟩ := Brief.blank_of_mem_nodes briefed.somebody
    briefed.distinct briefed.least briefed.most own
  exact ⟨b.place, step, b.role, actors, quota, listed, briefed.tag ▸ same, bounds⟩

theorem LaidOut.covers {place : Nat} (inside : place < items.length) :
    ∃ n ∈ w.automaton.nodes, n.step = .int place := by
  obtain ⟨b, found⟩ : ∃ b, briefs[place]? = some b :=
    ⟨_, List.getElem?_eq_getElem (by rw [laid.length]; exact inside)⟩
  obtain ⟨at_place, step, _, briefed⟩ := laid.each place b found
  obtain ⟨n, own⟩ := List.exists_mem_of_ne_nil _ (Brief.nodes_ne_nil briefed.somebody w.documents)
  refine ⟨n, ?_, at_place ▸ Brief.step_of_mem_nodes own⟩
  rw [laid.nodes]
  exact List.mem_flatMap.2 ⟨_, List.mem_of_getElem? found, own⟩

theorem LaidOut.ordered : w.automaton.nodes.Pairwise fun m n =>
    ∃ i j : Nat, m.step = .int i ∧ n.step = .int j ∧ i ≤ j := by
  rw [laid.nodes, List.pairwise_flatMap]
  constructor
  · intro b _
    refine List.pairwise_iff_getElem.2 fun i j at_i at_j _ => ?_
    exact ⟨b.place, b.place, Brief.step_of_mem_nodes (List.getElem_mem at_i),
      Brief.step_of_mem_nodes (List.getElem_mem at_j), Nat.le_refl _⟩
  · refine List.pairwise_iff_getElem.2 fun i j at_i at_j before m first n second => ?_
    have place_i := (laid.each i _ (List.getElem?_eq_getElem at_i)).1
    have place_j := (laid.each j _ (List.getElem?_eq_getElem at_j)).1
    exact ⟨i, j, place_i ▸ Brief.step_of_mem_nodes first,
      place_j ▸ Brief.step_of_mem_nodes second, Nat.le_of_lt before⟩

end LaidOut

/-- A workflow whose nodes are those of its authored steps, and in which nobody has acted. -/
structure Compiled (setting : Setting) (items : List StepItem) (w : Workflow) : Prop where
  documents_some : w.documents ≠ []
  documents_distinct : Distinct w.documents
  index : w.automaton.index = 0
  layout : ∃ briefs, LaidOut setting items briefs w
  each : ∀ n ∈ w.automaton.nodes, StandsFor items w n
  ordered : w.automaton.nodes.Pairwise fun m n =>
    ∃ i j : Nat, m.step = .int i ∧ n.step = .int j ∧ i ≤ j
  covered : ∀ place < items.length, ∃ n ∈ w.automaton.nodes, n.step = .int place
  at_start : w.automaton.isAtStart? = .ok true
  not_at_end : w.automaton.isAtEnd = false

theorem start_of_standsFor {items : List StepItem} {w : Workflow} {n : Node}
    (stands : StandsFor items w n) (some : w.documents ≠ []) (rest : List Node) :
    (⟨n :: rest, 0⟩ : Automaton).isAtStart? = .ok true ∧
      (⟨n :: rest, 0⟩ : Automaton).isAtEnd = false := by
  obtain ⟨place, step, role, actors, quota, _, rfl, _⟩ := stands
  generalize blank : Node.blank place step.tag w.documents role actors quota = n
  have untouched : n.startedCount = 0 := by
    refine List.countP_eq_zero.2 fun o opened => ?_
    rw [← blank] at opened
    obtain ⟨d, _, rfl⟩ := List.mem_map.1 opened
    simp [OpenDocument.isStarted, OpenDocument.fresh]
  have countable : n.isCountable = true := by
    simp [← blank, Node.isCountable, Node.blank, int_isNumber]
  have nothing_done : n.doneDocuments = [] := by rw [← blank]; rfl
  have opened : n.opened ≠ [] := by
    rw [← blank]
    exact fun none => some (List.map_eq_nil_iff.1 none)
  constructor
  · simp [Automaton.isAtStart?, Automaton.isAtStart, untouched, countable, nothing_done]
  · simp [Automaton.isAtEnd, Automaton.current?, opened]

theorem build_compiles {setting : Setting} {history : History} {items : List StepItem}
    {documents : Option (List Value)} {w : Workflow}
    (built : Workflow.build setting history (some items) documents = .ok w)
    (authored : ∀ step, .step step ∈ items → step.IsAuthored) :
    documents = some w.documents ∧ Compiled setting items w := by
  obtain ⟨parts, given, good, planned, _, emitted⟩ := Workflow.planned_of_build built
  obtain ⟨briefs, length, each, nodes⟩ := planned.exists_briefs authored
  simp only [Nat.zero_add] at each
  have laid : LaidOut setting items briefs w := ⟨length, each, by rw [emitted, nodes]⟩
  obtain ⟨_, _, _, _, _, same, some_item, _⟩ := Workflow.build_eq_ok built
  obtain rfl := Option.some.inj same
  obtain ⟨n, among, _⟩ := laid.covers (List.length_pos_iff.2 some_item)
  obtain ⟨first, rest, split⟩ := List.exists_cons_of_ne_nil (List.ne_nil_of_mem among)
  have stands := laid.standsFor (n := first) (by rw [split]; exact List.mem_cons_self)
  have start : w.automaton = ⟨first :: rest, 0⟩ := by rw [← split, emitted]
  obtain ⟨at_start, not_at_end⟩ := start_of_standsFor stands good.some rest
  exact ⟨given, good.some, good.distinct, by rw [emitted], ⟨briefs, laid⟩,
    fun n member => laid.standsFor member, laid.ordered, fun place inside => laid.covers inside,
    start ▸ at_start, start ▸ not_at_end⟩

/-! A workflow to look at: two approve, then two countersign, then a fourth sends. -/

def agency : Setting where
  resolver := TagPolicy.builtIn.resolver
  participants := [("a", ⟨.int 1, [.text "approval"]⟩),
    ("b", ⟨.int 2, [.text "approval", .text "sign"]⟩), ("c", ⟨.int 3, [.text "countersign"]⟩),
    ("d", ⟨.int 4, [.text "to"]⟩)]

def approveThenSign : List StepItem :=
  [.step { process := .text " Approval", participants := some [.text "a", .text "b"],
           cardinality := .authored (.text "ALL") },
   .step { process := .text "countersign", participants := some [.text "b", .text "c"],
           signatureType := .int 1 },
   .step { process := .text "to", participants := some [.text "d"] }]

theorem approveThenSign_authored : ∀ step, .step step ∈ approveThenSign → step.IsAuthored := by
  intro step member
  simp only [approveThenSign, List.mem_cons, StepItem.step.injEq, List.not_mem_nil,
    or_false] at member
  rcases member with rfl | rfl | rfl <;> exact ⟨_, rfl⟩

theorem agency_compiles :
    ∃ w, Workflow.build agency .empty (some approveThenSign) (some [.int 10, .int 11]) = .ok w ∧
      w.automaton.nodes.length = 4 ∧ Compiled agency approveThenSign w := by
  have reached : ∃ w, Workflow.build agency .empty (some approveThenSign)
      (some [.int 10, .int 11]) = .ok w ∧ w.automaton.nodes.length = 4 := ⟨_, rfl, rfl⟩
  obtain ⟨w, built, four⟩ := reached
  exact ⟨w, built, four, (build_compiles built approveThenSign_authored).2⟩

end SignatureRouting
