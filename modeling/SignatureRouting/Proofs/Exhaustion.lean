import Mathlib.Algebra.Group.Action.Defs
import Mathlib.Algebra.Order.BigOperators.Group.List
import Mathlib.Algebra.Order.Ring.Nat
import SignatureRouting.Proofs.Blocking

/-!
Which nodes can be exhausted before they are finished. Count the pairs of a done actor and a
document it has acted on. Every done actor is in as many of them as the quota. No document is in
more, and one that is still open leaves room for those who may act and for one actor more. So there
are fewer done actors than documents, and fewer actors who may act than the quota.
-/
namespace SignatureRouting
open Value

theorem sum_countP_cons {α β : Type} (a : α) (l : List α) (m : List β) (p : α → β → Bool) :
    (m.map fun b => (a :: l).countP fun c => p c b).sum =
      m.countP (p a) + (m.map fun b => l.countP fun c => p c b).sum := by
  induction m with
  | nil => rfl
  | cons b rest ih =>
    simp only [List.map_cons, List.sum_cons, List.countP_cons] at ih ⊢
    omega

theorem sum_countP_comm {α β : Type} (l : List α) (m : List β) (p : α → β → Bool) :
    (l.map fun a => m.countP (p a)).sum = (m.map fun b => l.countP fun a => p a b).sum := by
  induction l with
  | nil => simp
  | cons a rest ih => rw [List.map_cons, List.sum_cons, ih, sum_countP_cons]

theorem sum_add_le_of_each {α : Type} {f : α → Nat} {q gap : Nat} {l : List α}
    (each : ∀ a ∈ l, f a ≤ q) {b : α} (member : b ∈ l) (short : f b + gap ≤ q) :
    (l.map f).sum + gap ≤ q * l.length := by
  induction l with
  | nil => simp at member
  | cons a rest ih =>
    rw [List.forall_mem_cons] at each
    rw [List.length_cons, List.map_cons, List.sum_cons, Nat.mul_succ]
    rcases List.mem_cons.1 member with rfl | later
    · have bounded : (rest.map f).sum ≤ q * rest.length := by
        have total := List.sum_le_card_nsmul (rest.map f) q (by simpa using each.2)
        rwa [List.length_map, smul_eq_mul, Nat.mul_comm] at total
      omega
    · have bounded := ih each.2 later
      have first := each.1
      omega

namespace Node

/-- Whether everyone who may act can run out of documents while the node is still open. -/
def CanBlock (n : Node) : Prop :=
  (∀ count, n.quota.isReachedBy count = false) ∨
    ∃ q, n.quota.Needs q ∧ 2 ≤ q ∧ q < n.documents.length ∧
      n.actors.length + 2 ≤ n.documents.length + q

def remaining (start n : Node) : List Value :=
  start.actors.filter fun v => !n.doneActors.contains v

theorem mem_remaining {start n : Node} {v : Value} :
    v ∈ remaining start n ↔ v ∈ start.actors ∧ n.doneActors.contains v = false := by
  rw [remaining, List.mem_filter, Bool.not_eq_true']

theorem length_actors_le {start : Node} (fresh : start.Fresh) (n : Node) :
    start.actors.length ≤ (remaining start n).length + n.doneActors.length := by
  have done : start.actors.countP n.doneActors.contains ≤ n.doneActors.length := by
    rw [List.countP_eq_length_filter]
    refine (fresh.actors_distinct.sublist List.filter_sublist).length_le fun v member => ?_
    exact (List.mem_filter.1 member).2
  have split := List.length_eq_countP_add_countP n.doneActors.contains (l := start.actors)
  simp only [Bool.not_eq_true, Bool.decide_eq_false] at split
  rw [remaining, ← List.countP_eq_length_filter]
  omega

section Follows
variable {start n : Node} {acted : Value → List Value} (h : Follows start n acted)
include h

theorem Follows.done_le_acted (d : Value) :
    n.doneActors.countP (fun v => (acted d).contains v) ≤ (acted d).length := by
  rw [List.countP_eq_length_filter]
  refine (h.roster.done_distinct.sublist List.filter_sublist).length_le fun v member => ?_
  exact (List.mem_filter.1 member).2

theorem Follows.crowd_le (fresh : start.Fresh) {d : Value}
    (crowd : ∀ v ∈ remaining start n, (acted d).contains v = true) :
    (remaining start n).length + n.doneActors.countP (fun v => (acted d).contains v) ≤
      (acted d).length := by
  rw [List.countP_eq_length_filter, ← List.length_append]
  refine Distinct.length_le (distinct_append ?_ ?_ ?_) ?_
  · exact fresh.actors_distinct.sublist List.filter_sublist
  · exact h.roster.done_distinct.sublist List.filter_sublist
  · intro v member
    exact not_contains_of_sublist List.filter_sublist (mem_remaining.1 member).2
  · intro v member
    rcases List.mem_append.1 member with active | done
    · exact crowd v active
    · exact (List.mem_filter.1 done).2

section Needs
variable {q : Nat} (needs : start.quota.Needs q)
include needs

theorem Follows.acted_le (d : Value) : (acted d).length ≤ q := by
  have unfilled := needs.lt_of_unreached (h.progress.unfilled d)
  omega

theorem Follows.le_earned {v : Value} (done : v ∈ n.doneActors) :
    q ≤ start.documents.countP fun d => (acted d).contains v := by
  have reached := h.roster.earned v done
  rwa [needs, decide_eq_true_eq] at reached

variable (fresh : start.Fresh)
include fresh

/-- The pairs of a done actor and a document it has acted on, counted in both ways. -/
theorem Follows.pairs_le {d : Value} (known : d ∈ start.documents) (room : (acted d).length < q)
    (crowd : ∀ v ∈ remaining start n, (acted d).contains v = true) :
    q * n.doneActors.length + ((remaining start n).length + 1) ≤ q * start.documents.length := by
  have together := h.crowd_le fresh crowd
  have each : ∀ e ∈ start.documents,
      n.doneActors.countP (fun v => (acted e).contains v) ≤ q := fun e _ =>
    Nat.le_trans (h.done_le_acted e) (h.acted_le needs e)
  have upper :
      (start.documents.map fun e => n.doneActors.countP fun v => (acted e).contains v).sum +
        ((remaining start n).length + 1) ≤ q * start.documents.length :=
    sum_add_le_of_each each known (by omega)
  have earned : ∀ v ∈ n.doneActors, q ≤ start.documents.countP fun e => (acted e).contains v :=
    fun v done => h.le_earned needs done
  have lower := List.card_nsmul_le_sum
    (n.doneActors.map fun v => start.documents.countP fun e => (acted e).contains v) q
    (by simpa using earned)
  rw [List.length_map, smul_eq_mul, Nat.mul_comm, sum_countP_comm] at lower
  omega

theorem Follows.quota_lt_documents {d : Value} (known : d ∈ start.documents)
    (room : (acted d).length < q) (fits : q ≤ start.actors.length)
    (crowd : ∀ v ∈ remaining start n, (acted d).contains v = true) :
    q < start.documents.length := by
  by_contra few
  have everywhere : ∀ v ∈ n.doneActors, (acted d).contains v = true := by
    intro v done
    have all : start.documents.countP (fun e => (acted e).contains v) = start.documents.length := by
      have most := List.countP_le_length (p := fun e => (acted e).contains v)
        (l := start.documents)
      have least := h.le_earned needs done
      omega
    exact List.countP_eq_length.1 all d known
  have together := h.crowd_le fresh crowd
  have everyone := length_actors_le fresh n
  rw [List.countP_eq_length.2 everywhere] at together
  omega

end Needs

theorem Follows.canBlock_of_isExhausted (fresh : start.Fresh)
    (unfinished : n.isFinished = false) (exhausted : n.IsExhausted) : start.CanBlock := by
  rcases needs_or_never fresh.least fresh.most with never | ⟨q, needs, _, fits⟩
  · exact Or.inl never
  obtain ⟨some, v, active, eligible⟩ := exists_eligible_of_unfinished unfinished
  obtain ⟨o, opened⟩ := List.exists_mem_of_ne_nil _ some
  obtain ⟨known, actors, short⟩ := h.progress.mem_opened opened
  have crowd : ∀ v ∈ remaining start n, (acted o.id).contains v = true := by
    intro v member
    obtain ⟨listed, absent⟩ := mem_remaining.1 member
    refine actors ▸ exhausted v ?_ o opened
    rw [h.roster.isEligible_eq, contains_of_mem listed, absent]
    rfl
  have room := needs.lt_of_unreached short
  have among : v ∈ remaining start n :=
    mem_remaining.2 ⟨h.roster.remaining.subset active, (h.roster.of_eligible eligible).2.2⟩
  have some_active := List.length_pos_of_mem among
  have everyone := length_actors_le fresh n
  have together := h.crowd_le fresh crowd
  have pairs := h.pairs_le needs fresh known room crowd
  have fewer : n.doneActors.length < start.documents.length := by
    refine Nat.lt_of_mul_lt_mul_left (a := q) ?_
    omega
  have documents := h.quota_lt_documents needs fresh known room fits crowd
  exact Or.inr ⟨q, needs, by omega, documents, by omega⟩

end Follows

end Node
end SignatureRouting
