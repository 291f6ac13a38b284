import SignatureRouting.Proofs.Frontier

/-!
Whether the end of a workflow is seen where the cursor stands. In a run the end is reported exactly
once the cursor is past the last node. But the workflow is over already when the cursor is still on
the last node and everyone there is done, with documents left open. The cursor can be left there
exactly if the last node can be come to and has fewer actors than documents.
-/
namespace SignatureRouting
open Value

namespace Automaton
variable {a : Automaton}

theorem landing_of_none (past : a.nodes[a.index]? = none) : a.landing = a.index := by
  simp [landing, List.drop_eq_nil_of_le (List.getElem?_eq_none_iff.1 past)]

theorem index_lt_landing {n : Node} (here : a.nodes[a.index]? = some n)
    (finished : n.isFinished = true) : a.index < a.landing := by
  apply Nat.lt_of_le_of_ne a.index_le_landing
  intro stays
  rw [stays] at here
  rw [unfinished_at_landing here] at finished
  contradiction

end Automaton

namespace Frontier
variable {start a : Automaton} (frontier : Frontier start a) (fresh : AllFresh start)
include frontier fresh

theorem landing_le : a.landing ≤ a.index + 1 := by
  by_contra beyond
  obtain ⟨m, found, finished⟩ :=
    Automaton.finished_before_landing (Nat.le_succ a.index) (Nat.lt_of_not_le beyond)
  rw [frontier.ahead (Nat.lt_succ_self _)] at found
  rw [Node.unfinished_of_fresh (fresh.at found)] at finished
  contradiction

theorem isTerminated_iff : a.IsTerminated ↔ a.isAtEnd = true ∨
    a.index + 1 = a.nodes.length ∧ ∃ n, a.nodes[a.index]? = some n ∧ n.isFinished = true := by
  rw [Automaton.isTerminated_iff, frontier.isAtEnd_iff]
  cases here : a.nodes[a.index]? with
  | none => simp [Automaton.landing_of_none here, here]
  | some n =>
    have inside : a.index < a.nodes.length := (List.getElem?_eq_some_iff.1 here).1
    cases finished : n.isFinished with
    | false => simp [Automaton.landing_of_unfinished here finished, here, finished]
    | true =>
      have passed := Automaton.index_lt_landing here finished
      have near := frontier.landing_le fresh
      have next : a.landing = a.index + 1 := by omega
      simp only [next, List.getElem?_eq_none_iff, reduceCtorEq, false_or, Option.some.injEq,
        exists_eq_left', finished, and_true]
      omega

end Frontier

section Run
variable {start a : Automaton} {deeds : List Deed} (run : Run start deeds a)
  (fresh : AllFresh start) (first : start.index = 0)
include fresh first

include run in
/-- Where the end goes unseen every quota is reached, and the last node is deserted. -/
theorem Run.few_of_unseen_end (ended : a.IsTerminated) (unseen : a.isAtEnd = false) :
    (∀ s ∈ start.nodes, ∃ q, s.quota.Needs q) ∧
      ∃ s, start.nodes.getLast? = some s ∧ s.actors.length < s.documents.length := by
  have frontier := run.frontier fresh (by omega)
  have everywhere : ∀ s ∈ start.nodes, ∃ q, s.quota.Needs q := by
    intro s member
    obtain ⟨k, emitted⟩ := List.mem_iff_getElem?.1 member
    have outside := List.getElem?_eq_none_iff.1 (Automaton.isTerminated_iff.1 ended)
    have inside := (List.getElem?_eq_some_iff.1 emitted).1
    rw [frontier.size] at outside
    exact (run.node_behind fresh first (Nat.lt_of_lt_of_le inside outside) emitted).1
  refine ⟨everywhere, ?_⟩
  rcases (frontier.isTerminated_iff fresh).1 ended with seen | ⟨at_last, n, here, finished⟩
  · rw [unseen] at seen
    contradiction
  · obtain ⟨s, emitted, follows⟩ := (run.follows fresh).start_of_node here
    obtain ⟨q, needs⟩ := everywhere s (List.mem_of_getElem? emitted)
    have is_last : start.nodes.getLast? = some s := by
      rw [List.getLast?_eq_getElem?, ← frontier.size, ← at_last]
      exact emitted
    have some_open := frontier.current here
    exact ⟨s, is_last, follows.few_of_deserted (fresh.at emitted) needs some_open
      (Node.deserted_of_finished finished some_open)⟩

theorem exists_unseen_end (finite : ∀ s ∈ start.nodes, ∃ q, s.quota.Needs q) {last : Node}
    (is_last : start.nodes.getLast? = some last)
    (few : last.actors.length < last.documents.length) :
    ∃ deeds a, Run start deeds a ∧ a.IsTerminated ∧ a.isAtEnd = false := by
  rw [List.getLast?_eq_getElem?] at is_last
  have own := fresh.at is_last
  obtain ⟨q, needs⟩ := finite last (List.mem_of_getElem? is_last)
  obtain ⟨d, listed⟩ := List.exists_mem_of_ne_nil _ own.something
  obtain ⟨m, worked, finished, strands⟩ :=
    Node.exists_stranded own needs few (contains_of_mem listed)
  obtain ⟨o, opened, _⟩ := strands.untouched
  have changed : m ≠ last := by
    rintro rfl
    rw [Node.unfinished_of_fresh own] at finished
    contradiction
  obtain ⟨deeds, a, run, arrived, here⟩ := exists_run_at fresh first is_last
    (fun i _ s emitted => finite s (List.mem_of_getElem? emitted)) worked
    (List.ne_nil_of_mem opened) changed
  have frontier := run.frontier fresh (by omega)
  have size := frontier.size
  have inside := (List.getElem?_eq_some_iff.1 is_last).1
  rw [← arrived] at here
  refine ⟨deeds, a, run, ?_, ?_⟩
  · apply (frontier.isTerminated_iff fresh).2
    exact Or.inr ⟨by omega, m, here, finished⟩
  · rw [← Bool.not_eq_true, frontier.isAtEnd_iff, here]
    exact Option.some_ne_none m

end Run

theorem end_is_exact_iff {setting : Setting} {history : History} {steps : Option (List StepItem)}
    {documents : Option (List Value)} {w : Workflow}
    (built : Workflow.build setting history steps documents = .ok w) :
    (∀ deeds a, Run w.automaton deeds a → (a.IsTerminated ↔ a.isAtEnd = true ∨
      a.index + 1 = a.nodes.length ∧ ∃ n, a.nodes[a.index]? = some n ∧ n.isFinished = true)) ∧
    ((∀ deeds a, Run w.automaton deeds a → (a.isAtEnd = true ↔ a.IsTerminated)) ↔
      (∃ n ∈ w.automaton.nodes, ∀ count, n.quota.isReachedBy count = false) ∨
        ∀ n, w.automaton.nodes.getLast? = some n → w.documents.length ≤ n.actors.length) := by
  have fresh := Workflow.fresh_of_build built
  obtain ⟨first, documents⟩ := Workflow.start_of_build built
  refine ⟨fun deeds a run => (frontier_of_build built run).isTerminated_iff fresh, ?_⟩
  constructor
  · intro exactly
    by_contra may
    rw [not_or] at may
    obtain ⟨reachable, short⟩ := may
    have finite : ∀ s ∈ w.automaton.nodes, ∃ q, s.quota.Needs q := by
      intro s member
      apply (fresh s member).needs_iff.2
      intro never
      exact reachable ⟨s, member, never⟩
    apply short
    intro last is_last
    by_contra few
    rw [← documents last (List.mem_of_getLast? is_last)] at few
    obtain ⟨deeds, a, run, ended, unseen⟩ :=
      exists_unseen_end fresh first finite is_last (Nat.lt_of_not_le few)
    rw [(exactly deeds a run).2 ended] at unseen
    contradiction
  · intro cannot deeds a run
    constructor
    · intro seen
      exact ((frontier_of_build built run).isTerminated_iff fresh).2 (Or.inl seen)
    · intro ended
      by_contra unseen
      rw [Bool.not_eq_true] at unseen
      obtain ⟨finite, last, is_last, few⟩ := run.few_of_unseen_end fresh first ended unseen
      rcases cannot with ⟨s, member, never⟩ | enough
      · exact (fresh s member).needs_iff.1 (finite s member) never
      · have many := enough last is_last
        rw [documents last (List.mem_of_getLast? is_last)] at few
        omega

/-- Three actors can sign three documents without leaving one open at the end. -/
theorem end_is_exact_with_three :
    ∃ w, Workflow.build office .empty (some (signThenSend.take 1))
        (some [.int 10, .int 11, .int 12]) = .ok w ∧
      ∀ deeds a, Run w.automaton deeds a → (a.isAtEnd = true ↔ a.IsTerminated) := by
  have built : ∃ w, Workflow.build office .empty (some (signThenSend.take 1))
      (some [.int 10, .int 11, .int 12]) = .ok w ∧ w.automaton.nodes = [cosignNode] ∧
      w.documents = [.int 10, .int 11, .int 12] := ⟨_, rfl, rfl, rfl⟩
  obtain ⟨w, built, nodes, documents⟩ := built
  refine ⟨w, built, (end_is_exact_iff built).2.2 (Or.inr ?_)⟩
  intro n is_last
  rw [nodes, List.getLast?_singleton, Option.some.injEq] at is_last
  rw [← is_last, documents]
  decide

/-- Two actors are done with two of three documents left open, and the end is not seen. -/
theorem end_unseen_after_two :
    ∃ w deeds a, Workflow.build office .empty (some (pairSigning.take 1))
        (some [.int 10, .int 11, .int 12]) = .ok w ∧
      w.automaton.play [cosign 1 [10, 11], cosign 2 [10, 12]] = .ok (deeds, a) ∧
      a.isAtEnd = false ∧ a.IsTerminated := by
  have reached : ∃ w deeds a, Workflow.build office .empty (some (pairSigning.take 1))
        (some [.int 10, .int 11, .int 12]) = .ok w ∧
      w.automaton.play [cosign 1 [10, 11], cosign 2 [10, 12]] = .ok (deeds, a) ∧
      a.isAtEnd = false ∧ a.nodes[a.landing]? = none := ⟨_, _, _, rfl, rfl, rfl, rfl⟩
  obtain ⟨w, deeds, a, built, played, unseen, gone⟩ := reached
  exact ⟨w, deeds, a, built, played, unseen, Automaton.isTerminated_iff.2 gone⟩

end SignatureRouting
