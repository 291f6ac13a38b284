import SignatureRouting.Proofs.Compilation
import SignatureRouting.Proofs.Passing

/-!
Nothing is approved once it is signed. A build refuses an approval after a signature, in the history
or in an earlier step, so all nodes that approve stand before all nodes that sign. The cursor only
moves forward, so whoever approves in a run does so before anybody has signed.
-/
namespace SignatureRouting
open Value

theorem Planned.role_of_node {setting : Setting} {documents : List Value} {first : Nat}
    {items : List StepItem} {parts : List PlannedStep}
    (planned : Planned setting documents first items parts) {part : PlannedStep}
    (among : part ∈ parts) {n : Node} (own : n ∈ part.nodes) : n.role = part.duty.role := by
  obtain ⟨i, found⟩ := List.mem_iff_getElem?.1 among
  obtain ⟨_, _, _, emits⟩ := planned.of_part found
  obtain ⟨spec, member, rfl⟩ := List.mem_map.1 own
  obtain ⟨_, is_role, _⟩ := StepPlan.of_mem_specs emits member
  rw [PlannedStep.duty, StepPlan.duty, is_role]
  rfl

theorem Run.same_or_before {start a : Automaton} {deeds : List Deed} (run : Run start deeds a)
    (fresh : AllFresh start) {R : Node → Node → Prop} (ordered : start.nodes.Pairwise R)
    {deed : Deed} (member : deed ∈ deeds) {x : Action} {t : Transition}
    (accepted : a.transition x = .ok t) :
    deed.outcome.node.role = t.node.role ∨
      ∃ m s, R m s ∧ deed.outcome.node.role = m.role ∧ t.node.role = s.role := by
  obtain ⟨s, at_landing, _, role, _⟩ := run.landed_at fresh accepted
  obtain ⟨behind, m, at_deed, same⟩ := run.deed_behind fresh member
  have reached : deed.outcome.landing ≤ t.landing := by
    rw [Automaton.landing_of_transition accepted]
    exact Nat.le_trans behind a.index_le_landing
  -- The cursor never goes back, so what was done earlier was not done further on.
  rcases Nat.lt_or_eq_of_le reached with earlier | here
  · obtain ⟨inside, rfl⟩ := List.getElem?_eq_some_iff.1 at_landing
    obtain ⟨before, rfl⟩ := List.getElem?_eq_some_iff.1 at_deed
    exact Or.inr ⟨_, _, List.pairwise_iff_getElem.1 ordered _ _ before inside earlier, same, role⟩
  · rw [here, at_landing, Option.some.injEq] at at_deed
    exact Or.inl (same.trans (at_deed ▸ role.symm))

section Built
variable {setting : Setting} {history : History} {items : List StepItem}
  {documents : Option (List Value)} {w : Workflow}
  (built : Workflow.build setting history (some items) documents = .ok w)
include built

theorem approvals_first :
    w.automaton.nodes.Pairwise fun m n => n.role = .approval → m.role ≠ .signature := by
  obtain ⟨parts, _, _, planned, coherent, emitted⟩ := Workflow.planned_of_build built
  have duties := List.pairwise_map.1 coherent.approved_first
  rw [emitted, List.pairwise_flatMap]
  constructor
  · intro part among
    refine List.pairwise_iff_getElem.2 fun i j at_i at_j _ approves => ?_
    have first := planned.role_of_node among (List.getElem_mem at_i)
    have second := planned.role_of_node among (List.getElem_mem at_j)
    rw [first, ← second, approves]
    decide
  · refine duties.imp_of_mem fun {p q} before after apart m first n second approves => ?_
    rw [planned.role_of_node before first]
    exact apart ((planned.role_of_node after second).symm.trans approves)

theorem unsigned_of_approval {s : Node} (member : s ∈ w.automaton.nodes)
    (approves : s.role = .approval) : ∀ d ∈ w.documents, (history.tally d).signers = [] := by
  obtain ⟨parts, _, _, planned, coherent, emitted⟩ := Workflow.planned_of_build built
  rw [emitted] at member
  obtain ⟨part, among, own⟩ := List.mem_flatMap.1 member
  exact coherent.unsigned part.duty (List.mem_map_of_mem among)
    ((planned.role_of_node among own).symm.trans approves)

theorem approved_before_signing {deeds : List Deed} {a : Automaton}
    (run : Run w.automaton deeds a) {x : Action} {t : Transition} (accepted : a.transition x = .ok t)
    (approves : t.node.role = .approval) :
    (∀ d, t.requested.contains d = true → (history.tally d).signers = []) ∧
      ∀ deed ∈ deeds, deed.outcome.node.role ≠ .signature := by
  have fresh := Workflow.fresh_of_build built
  constructor
  · intro d asked
    obtain ⟨s, emitted, role, _, known⟩ := run.landed fresh accepted asked
    have member := List.mem_of_getElem? emitted
    rw [(Workflow.start_of_build built).2 s member] at known
    obtain ⟨e, listed, same⟩ := exists_same_of_contains known
    rw [history.tally_congr same]
    exact unsigned_of_approval built member (role.symm.trans approves) e listed
  · intro deed member signs
    rcases run.same_or_before fresh (approvals_first built) member accepted with
      same | ⟨m, s, apart, first, second⟩
    · rw [same, approves] at signs
      contradiction
    · exact apart (second ▸ approves) (first ▸ signs)

end Built

theorem agency_approves_before_signing :
    ∃ w deeds a t,
      Workflow.build agency .empty (some approveThenSign) (some [.int 10, .int 11]) = .ok w ∧
      w.automaton.play [⟨.int 1, .text "approval", [.int 10]⟩] = .ok (deeds, a) ∧
      a.transition ⟨.int 2, .text "approval", [.int 10, .int 11]⟩ = .ok t ∧
      t.node.role = .approval ∧ deeds.length = 1 ∧
      ∀ deed ∈ deeds, deed.outcome.node.role ≠ .signature := by
  have reached : ∃ w deeds a t,
      Workflow.build agency .empty (some approveThenSign) (some [.int 10, .int 11]) = .ok w ∧
      w.automaton.play [⟨.int 1, .text "approval", [.int 10]⟩] = .ok (deeds, a) ∧
      a.transition ⟨.int 2, .text "approval", [.int 10, .int 11]⟩ = .ok t ∧
      t.node.role = .approval ∧ deeds.length = 1 := ⟨_, _, _, _, rfl, rfl, rfl, rfl, rfl⟩
  obtain ⟨w, deeds, a, t, built, played, accepted, approves, one⟩ := reached
  exact ⟨w, deeds, a, t, built, played, accepted, approves, one,
    (approved_before_signing built (run_of_play played) accepted approves).2⟩

end SignatureRouting
