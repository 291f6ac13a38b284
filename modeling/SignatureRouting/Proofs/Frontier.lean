import SignatureRouting.Proofs.Ledger
import SignatureRouting.Proofs.Passing

/-!
Where the cursor stands in a run. The nodes before it are spent: no document of them is open, or no
actor of them is left. Nobody has come to the nodes after it, and a document is open at its own
node. The cursor may lag behind, on a node that is spent with documents open; the next action then
lands on the node after it.
-/
namespace SignatureRouting
open Value

namespace Node

def IsSpent (n : Node) : Prop := n.opened = [] ∨ n.actors = []

theorem targets_of_isSpent {n : Node} (spent : n.IsSpent) : n.targets = [] := by
  rcases spent with empty | nobody
  · simp [targets, empty]
  · simp [targets, nobody]

section Follows
variable {start n : Node} {acted : Value → List Value} (h : Follows start n acted)
include h

theorem Follows.isSpent_of_finished (defined : ∀ v ∈ start.actors, v.isUndefined = false)
    (finished : n.isFinished = true) : n.IsSpent := by
  rw [isFinished, Bool.or_eq_true, List.isEmpty_iff, List.all_eq_true] at finished
  rcases finished with empty | everybody
  · exact Or.inl empty
  · right
    cases actors : n.actors with
    | nil => rfl
    | cons v rest =>
      have member : v ∈ n.actors := by simp [actors]
      have absent := h.roster.apart v member (defined v (h.roster.remaining.subset member))
      have done := everybody v member
      simp [absent] at done

theorem Follows.isEmpty_opened :
    n.opened.isEmpty = start.documents.all fun d => n.doneDocuments.contains d := by
  rw [Bool.eq_iff_iff, List.isEmpty_iff, List.all_eq_true, h.progress.opened, List.map_eq_nil_iff,
    List.filter_eq_nil_iff]
  constructor
  · intro reached d member
    rw [h.progress.contains_done, contains_of_mem member]
    simpa using reached d member
  · intro done d member
    have found := done d member
    rw [h.progress.contains_done, contains_of_mem member] at found
    simpa using found

end Follows

end Node

theorem Automaton.result_of_transition {a : Automaton} {x : Action} {t : Transition}
    (accepted : a.transition x = .ok t) :
    t.result.nodes = a.nodes.set t.landing t.node ∧
      t.result.index = if t.node.opened.isEmpty then t.landing + 1 else t.landing := by
  obtain ⟨n, requested, _, _, rfl⟩ := Automaton.transition_eq_ok_iff.1 accepted
  exact ⟨rfl, rfl⟩

/-- What lies at the cursor and after it, in an automaton that was brought on from another. -/
structure Frontier (start a : Automaton) : Prop where
  size : a.nodes.length = start.nodes.length
  inside : a.index ≤ start.nodes.length
  current : ∀ {n : Node}, a.nodes[a.index]? = some n → n.opened ≠ []
  ahead : ∀ {k : Nat}, a.index < k → a.nodes[k]? = start.nodes[k]?

theorem Node.opened_of_fresh {n : Node} (fresh : n.Fresh) : n.opened ≠ [] := by
  intro empty
  apply fresh.something
  simp [Node.documents, empty]

theorem frontier_start {start : Automaton} (fresh : AllFresh start)
    (inside : start.index ≤ start.nodes.length) : Frontier start start where
  size := rfl
  inside := inside
  current here := Node.opened_of_fresh (fresh.at here)
  ahead _ := rfl

theorem Frontier.transition {start a : Automaton} (frontier : Frontier start a)
    (fresh : AllFresh start) {x : Action} {t : Transition} (accepted : a.transition x = .ok t) :
    Frontier start t.result := by
  have landed := Automaton.landing_of_transition accepted
  have reached := a.index_le_landing
  have counted := Automaton.index_le_of_transition accepted
  obtain ⟨_, index⟩ := Automaton.result_of_transition accepted
  have untouched : ∀ {k : Nat}, t.landing < k → t.result.nodes[k]? = start.nodes[k]? := by
    intro k after
    rw [Automaton.getElem?_result accepted, if_neg (by omega)]
    apply frontier.ahead
    omega
  constructor
  case size => rw [counted.1, frontier.size]
  case inside => rw [← frontier.size]; exact counted.2
  case current =>
    intro n here
    cases complete : t.node.opened.isEmpty with
    | true =>
      rw [index, complete, if_pos rfl, untouched (Nat.lt_succ_self _)] at here
      exact Node.opened_of_fresh (fresh.at here)
    | false =>
      rw [index, complete, if_neg Bool.false_ne_true, Automaton.getElem?_result accepted,
        if_pos rfl, Option.some.injEq] at here
      subst here
      simpa using complete
  case ahead =>
    intro k after
    apply untouched
    rw [index] at after
    split at after <;> omega

theorem Run.frontier {start a : Automaton} {deeds : List Deed} (run : Run start deeds a)
    (fresh : AllFresh start) (inside : start.index ≤ start.nodes.length) : Frontier start a := by
  induction run with
  | none => exact frontier_start fresh inside
  | act before accepted ih => exact ih.transition fresh accepted

theorem Frontier.isAtEnd_iff {start a : Automaton} (frontier : Frontier start a) :
    a.isAtEnd = true ↔ a.nodes[a.index]? = none := by
  cases here : a.nodes[a.index]? with
  | none => simp [Automaton.isAtEnd, Automaton.current?, here]
  | some n => simp [Automaton.isAtEnd, Automaton.current?, here, frontier.current here]

theorem exists_run_at {start : Automaton} (fresh : AllFresh start) (first : start.index = 0)
    {k : Nat} {s m : Node} (emitted : start.nodes[k]? = some s)
    (finite : ∀ i < k, ∀ s, start.nodes[i]? = some s → ∃ q, s.quota.Needs q)
    (worked : Node.Worked s m) (some_open : m.opened ≠ []) (changed : m ≠ s) :
    ∃ deeds a, Run start deeds a ∧ a.index = k ∧ a.nodes[k]? = some m := by
  obtain ⟨deeds, a, run, landed, here, _⟩ := exists_run_completing fresh first emitted finite
  rw [← landed] at here
  obtain ⟨more, b, later, nodes, index, _⟩ := exists_run_of_worked here worked
  have whole := run.append later
  have there : b.nodes[k]? = some m := by
    rw [nodes, ← landed, List.getElem?_set_self (List.getElem?_eq_some_iff.1 here).1]
  rw [List.isEmpty_eq_false_iff.2 some_open, if_neg Bool.false_ne_true, landed] at index
  refine ⟨_, b, whole, ?_, there⟩
  apply Nat.le_antisymm index
  by_contra behind
  have frontier := whole.frontier fresh (by omega)
  rw [frontier.ahead (Nat.lt_of_not_le behind), emitted, Option.some.injEq] at there
  exact changed there.symm

section Built
variable {setting : Setting} {history : History} {steps : Option (List StepItem)}
  {documents : Option (List Value)} {w : Workflow}
  (built : Workflow.build setting history steps documents = .ok w)
include built

theorem frontier_of_build {deeds : List Deed} {a : Automaton} (run : Run w.automaton deeds a) :
    Frontier w.automaton a := by
  apply run.frontier (Workflow.fresh_of_build built)
  rw [(Workflow.start_of_build built).1]
  exact Nat.zero_le _

theorem actors_defined (defined : ∀ p ∈ setting.participants, p.2.actor.isUndefined = false)
    {k : Nat} {s : Node} (emitted : w.automaton.nodes[k]? = some s) :
    ∀ v ∈ s.actors, v.isUndefined = false := by
  intro v listed
  obtain ⟨p, known, rfl⟩ :=
    Workflow.participant_of_build built s (List.mem_of_getElem? emitted) v listed
  exact defined p known

theorem spent_before_landing
    (defined : ∀ p ∈ setting.participants, p.2.actor.isUndefined = false) {deeds : List Deed}
    {a : Automaton} (run : Run w.automaton deeds a) {k : Nat} (before : k < a.landing) :
    ∃ n, a.nodes[k]? = some n ∧ n.isFinished = true ∧ n.IsSpent := by
  obtain ⟨n, here, finished⟩ := run.finished_behind (Workflow.start_of_build built).1 before
  obtain ⟨s, emitted, follows⟩ :=
    (run.follows (Workflow.fresh_of_build built)).start_of_node here
  exact ⟨n, here, finished,
    follows.isSpent_of_finished (actors_defined built defined emitted) finished⟩

theorem index_after {deeds : List Deed} {a : Automaton} (run : Run w.automaton deeds a)
    {x : Action} {t : Transition} (accepted : a.transition x = .ok t) :
    t.result.index = if w.documents.all (fun d => t.node.doneDocuments.contains d) then
      t.landing + 1 else t.landing := by
  have all := (Run.act run accepted).follows (Workflow.fresh_of_build built)
  have here : t.result.nodes[t.landing]? = some t.node := by
    rw [Automaton.getElem?_result accepted, if_pos rfl]
  obtain ⟨s, emitted, follows⟩ := all.start_of_node here
  rw [(Automaton.result_of_transition accepted).2, follows.isEmpty_opened,
    (Workflow.start_of_build built).2 s (List.mem_of_getElem? emitted)]

theorem cursor_divides_nodes
    (defined : ∀ p ∈ setting.participants, p.2.actor.isUndefined = false) {deeds : List Deed}
    {a : Automaton} (run : Run w.automaton deeds a) :
    (∀ k < a.index, ∃ n, a.nodes[k]? = some n ∧ (n.opened = [] ∨ n.actors = [])) ∧
    (∀ k, a.index < k → a.nodes[k]? = w.automaton.nodes[k]?) ∧
    (a.index < a.nodes.length → ∃ n, a.nodes[a.index]? = some n ∧ n.opened ≠ []) ∧
    ∀ x t, a.transition x = .ok t →
      a.index ≤ t.landing ∧
      (∀ k, a.index ≤ k → k < t.landing →
        ∃ n, a.nodes[k]? = some n ∧ n.isFinished = true ∧ n.targets = []) ∧
      (∃ n, a.nodes[t.landing]? = some n ∧ n.isFinished = false) ∧
      t.result.nodes = a.nodes.set t.landing t.node ∧
      t.result.index = (if w.documents.all (fun d => t.node.doneDocuments.contains d) then
        t.landing + 1 else t.landing) ∧
      a.index ≤ t.result.index := by
  have frontier := frontier_of_build built run
  refine ⟨?_, fun k => frontier.ahead, ?_, ?_⟩
  · intro k before
    have reached := Nat.lt_of_lt_of_le before a.index_le_landing
    obtain ⟨n, here, _, spent⟩ := spent_before_landing built defined run reached
    exact ⟨n, here, spent⟩
  · intro more
    have here : a.nodes[a.index]? = some a.nodes[a.index] := List.getElem?_eq_getElem more
    exact ⟨_, here, frontier.current here⟩
  · intro x t accepted
    have landed := Automaton.landing_of_transition accepted
    have reached := a.index_le_landing
    have index := index_after built run accepted
    refine ⟨by omega, ?_, ?_, (Automaton.result_of_transition accepted).1, index, ?_⟩
    · intro k _ before
      rw [landed] at before
      obtain ⟨n, here, finished, spent⟩ := spent_before_landing built defined run before
      exact ⟨n, here, finished, Node.targets_of_isSpent spent⟩
    · obtain ⟨n, here, _⟩ := Automaton.of_transition accepted
      rw [landed] at here ⊢
      exact ⟨n, here, Automaton.unfinished_at_landing here⟩
    · rw [index]
      split <;> omega

end Built

def pairSigning : List StepItem :=
  [.step { process := .text "cosign", participants := some [.text "a", .text "b"],
           signatureType := .int 1, cardinality := .authored (.int 2) },
   .step { process := .text "to", participants := some [.text "d"] }]

/-- Both signers are done with two documents left open. The cursor stays at their node until the
next action passes it. -/
theorem cursor_divides_nodes_at_deserted :
    ∃ w deeds a t n,
      Workflow.build office .empty (some pairSigning) (some [.int 10, .int 11, .int 12]) = .ok w ∧
      w.automaton.play [cosign 1 [10, 11], cosign 2 [10, 12]] = .ok (deeds, a) ∧
      a.transition ⟨.int 4, .text "to", [.int 12]⟩ = .ok t ∧ a.index = 0 ∧ t.landing = 1 ∧
      a.nodes[0]? = some n ∧ n.opened = [⟨.int 11, [.int 1]⟩, ⟨.int 12, [.int 2]⟩] ∧
      n.targets = [] ∧ t.result.index = 1 := by
  have reached : ∃ w deeds a t n,
      Workflow.build office .empty (some pairSigning) (some [.int 10, .int 11, .int 12]) = .ok w ∧
      w.automaton.play [cosign 1 [10, 11], cosign 2 [10, 12]] = .ok (deeds, a) ∧
      a.transition ⟨.int 4, .text "to", [.int 12]⟩ = .ok t ∧ a.index = 0 ∧ t.landing = 1 ∧
      a.nodes[0]? = some n ∧ n.opened = [⟨.int 11, [.int 1]⟩, ⟨.int 12, [.int 2]⟩] ∧
      w.documents.all (fun d => t.node.doneDocuments.contains d) = false :=
    ⟨_, _, _, _, _, rfl, rfl, rfl, rfl, rfl, rfl, rfl, rfl⟩
  obtain ⟨w, deeds, a, t, n, built, played, accepted, index, landing, here, opened, some_open⟩ :=
    reached
  have defined : ∀ p ∈ office.participants, p.2.actor.isUndefined = false := by decide
  obtain ⟨_, _, _, moves⟩ := cursor_divides_nodes built defined (run_of_play played)
  obtain ⟨_, passed, _, _, moved, _⟩ := moves _ t accepted
  obtain ⟨m, found, _, targets⟩ := passed 0 (by omega) (by omega)
  rw [here, Option.some.injEq] at found
  subst found
  rw [some_open, landing] at moved
  exact ⟨w, deeds, a, t, n, built, played, accepted, index, landing, here, opened, targets, moved⟩

end SignatureRouting
