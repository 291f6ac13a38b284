import SignatureRouting.Proofs.Blocking

/-!
Bringing about states of one node. Who may act and what has been done on each document decide
whether an action is accepted, so it is enough to say, action by action, how these two change. An
actor who takes as many open documents as the quota at once retires by it; one who takes a single
document, and stands on no other open one, does not.
-/
namespace SignatureRouting
open Value

namespace Node

inductive Worked (start : Node) : Node → Prop where
  | none : Worked start start
  | act {n : Node} {v : Value} {ds requested : List Value} (before : Worked start n)
      (unfinished : n.isFinished = false) (taken : n.accept ⟨v, n.tag, ds⟩ = .ok requested) :
      Worked start (n.record v requested)

/-- A node that has been worked at, with the actors of each document and those who are done. -/
structure Played (start : Node) (acted : Value → List Value) (done : List Value) (n : Node) :
    Prop where
  worked : Worked start n
  follows : Follows start n acted
  done : n.doneActors = done

def pending (start : Node) (acted : Value → List Value) : List Value :=
  start.documents.filter fun d => !start.quota.isReachedBy (acted d).length

theorem mem_pending {start : Node} {acted : Value → List Value} {d : Value} :
    d ∈ pending start acted ↔
      d ∈ start.documents ∧ start.quota.isReachedBy (acted d).length = false := by
  rw [pending, List.mem_filter, Bool.not_eq_true']

def doneAfter (start : Node) (acted : Value → List Value) (done : List Value) (v : Value)
    (ds : List Value) : List Value :=
  if start.quota.isReachedBy
      ((pending start acted).countP fun d => (actedAfter acted v ds d).contains v) then
    done ++ [v]
  else done

section Played
variable {start n : Node} {acted : Value → List Value} {done : List Value}
  (played : Played start acted done n)
include played

theorem Played.isEligible_eq (v : Value) :
    n.isEligible v = (start.actors.contains v && !done.contains v) := by
  rw [played.follows.roster.isEligible_eq, played.done]

theorem Played.unfinished {d : Value} (wanted : d ∈ pending start acted) {v : Value}
    (known : start.actors.contains v = true) (active : done.contains v = false) :
    n.isFinished = false := by
  refine unfinished_of_eligible (v := v) ?_ ?_
  · rw [played.follows.progress.opened]
    exact List.ne_nil_of_mem (List.mem_map_of_mem wanted)
  · rw [played.isEligible_eq, known, active]
    rfl

theorem Played.isExhausted (crowd : ∀ d ∈ pending start acted, ∀ v,
    start.actors.contains v = true → done.contains v = false → (acted d).contains v = true) :
    n.IsExhausted := by
  intro v eligible o opened
  rw [played.isEligible_eq, Bool.and_eq_true, Bool.not_eq_true'] at eligible
  obtain ⟨listed, actors, short⟩ := played.follows.progress.mem_opened opened
  rw [actors]
  exact crowd o.id (mem_pending.2 ⟨listed, short⟩) v eligible.1 eligible.2

end Played

section Play
variable {start n : Node} (fresh : start.Fresh) {acted : Value → List Value} {done : List Value}
include fresh

theorem played_fresh : Played start (fun _ => []) [] start :=
  ⟨Worked.none, follows_of_fresh fresh, fresh.nobody_done⟩

section Act
variable (played : Played start acted done n) {v : Value}
  (known : start.actors.contains v = true) (active : done.contains v = false)
  {ds : List Value} (some : ds ≠ []) (once : Distinct ds)
  (wanted : ∀ d ∈ ds, d ∈ pending start acted ∧ (acted d).contains v = false)
include played known active some once wanted

omit some in
theorem Played.accept : n.accept ⟨v, n.tag, ds⟩ = .ok ds := by
  have eligible : n.isEligible v = true := by
    rw [played.isEligible_eq, known, active]
    rfl
  refine played.follows.accept_eq_ok fresh eligible once fun d member => ?_
  obtain ⟨listed, unmet⟩ := wanted d member
  obtain ⟨among, short⟩ := mem_pending.1 listed
  exact ⟨among, short, unmet⟩

theorem Played.record :
    Played start (actedAfter acted v ds) (doneAfter start acted done v ds) (n.record v ds) := by
  have h := played.follows
  have accepted := played.accept fresh known active once wanted
  obtain ⟨d, member⟩ := List.exists_mem_of_ne_nil _ some
  have unfinished := played.unfinished (wanted d member).1 known active
  refine ⟨Worked.act played.worked unfinished accepted, h.of_accept fresh accepted, ?_⟩
  rw [record_doneActors (h.progress.documents_distinct fresh.documents_distinct), retires,
    isReachedBy_congr h.quota, h.touched_entries, List.countP_map, played.done]
  rfl

theorem Played.act :
    ∃ m, Played start (actedAfter acted v ds) (doneAfter start acted done v ds) m :=
  ⟨_, played.record fresh known active some once wanted⟩

theorem Played.retire (enough : start.quota.isReachedBy ds.length = true) :
    ∃ m, Played start (actedAfter acted v ds) (done ++ [v]) m := by
  obtain ⟨m, after⟩ := played.act fresh known active some once wanted
  have count : ds.length ≤
      (pending start acted).countP fun d => (actedAfter acted v ds d).contains v := by
    rw [List.countP_eq_length_filter]
    refine once.length_le fun d member => contains_of_mem (List.mem_filter.2 ⟨?_, ?_⟩)
    · exact (wanted d member).1
    · rw [contains_actedAfter, contains_of_mem member, same_refl, Bool.and_true, Bool.or_true]
  rw [doneAfter, if_pos (isReachedBy_mono enough count)] at after
  exact ⟨m, after⟩

end Act

theorem doneAfter_of_idle {v d : Value}
    (absent : ∀ e ∈ pending start acted, (acted e).contains v = false)
    (several : start.quota.isReachedBy 1 = false) : doneAfter start acted done v [d] = done := by
  have count : ((pending start acted).countP fun e => (actedAfter acted v [d] e).contains v) ≤
      [d].length := by
    rw [List.countP_eq_length_filter]
    refine Distinct.length_le ?_ fun e member => ?_
    · exact fresh.documents_distinct.sublist (List.filter_sublist.trans List.filter_sublist)
    · obtain ⟨among, stands⟩ := List.mem_filter.1 member
      rw [contains_actedAfter, absent e among, Bool.false_or, Bool.and_eq_true] at stands
      exact stands.1
  rw [doneAfter, not_reached_of_le several count]
  rfl

theorem Played.stay (played : Played start acted done n) {v : Value}
    (known : start.actors.contains v = true) (active : done.contains v = false) {d : Value}
    (listed : d ∈ pending start acted)
    (absent : ∀ e ∈ pending start acted, (acted e).contains v = false)
    (several : start.quota.isReachedBy 1 = false) :
    ∃ m, Played start (actedAfter acted v [d]) done m := by
  obtain ⟨m, after⟩ := played.act fresh known active (List.cons_ne_nil d [])
    (List.nodup_singleton _) (fun e member => by
      obtain rfl := List.mem_singleton.1 member
      exact ⟨listed, absent e listed⟩)
  rw [doneAfter_of_idle fresh absent several] at after
  exact ⟨m, after⟩

theorem Played.fill {us : List Value} (played : Played start acted done n) {d : Value}
    (listed : d ∈ start.documents) (once : Distinct us)
    (free : ∀ u ∈ us, start.actors.contains u = true ∧ done.contains u = false ∧
      ∀ e ∈ pending start acted, (acted e).contains u = false)
    (room : ∀ k < us.length, start.quota.isReachedBy ((acted d).length + k) = false)
    (several : start.quota.isReachedBy 1 = false) :
    ∃ acted' m, Played start acted' done m ∧
      ∀ e, acted' e = if e == d then acted e ++ us else acted e := by
  induction us generalizing acted n with
  | nil => exact ⟨acted, n, played, fun e => by simp⟩
  | cons u rest ih =>
    obtain ⟨absent, later⟩ := distinct_cons.1 once
    rw [List.forall_mem_cons] at free
    obtain ⟨known, active, nowhere⟩ := free.1
    have wants : d ∈ pending start acted := mem_pending.2 ⟨listed, room 0 (Nat.succ_pos _)⟩
    obtain ⟨m, next⟩ := played.stay fresh known active wants nowhere several
    have here : (actedAfter acted u [d] d).length = (acted d).length + 1 := by
      rw [actedAfter, contains_singleton, if_pos (same_refl d), List.length_append]
      rfl
    have others : ∀ w ∈ rest, start.actors.contains w = true ∧ done.contains w = false ∧
        ∀ e ∈ pending start (actedAfter acted u [d]),
          (actedAfter acted u [d] e).contains w = false := by
      intro w member
      obtain ⟨known', active', nowhere'⟩ := free.2 w member
      refine ⟨known', active', fun e open_after => ?_⟩
      obtain ⟨among, short⟩ := mem_pending.1 open_after
      have before : e ∈ pending start acted :=
        mem_pending.2 ⟨among, not_reached_of_le short (length_le_actedAfter acted u [d] e)⟩
      rw [contains_actedAfter, nowhere' e before, differs_of_mem absent member, Bool.and_false,
        Bool.or_false]
    obtain ⟨acted', m', filled, shape⟩ := ih next later others (fun k fewer => by
      rw [here, Nat.add_assoc, Nat.add_comm 1 k]
      exact room (k + 1) (Nat.succ_lt_succ fewer))
    refine ⟨acted', m', filled, fun e => ?_⟩
    rw [shape, actedAfter, contains_singleton]
    cases e == d with
    | false => rfl
    | true => simp

/-- Actors one fewer than the quota complete documents that somebody else has begun. -/
theorem Played.fill_all {q : Nat} (needs : start.quota.Needs q) {crowd : List Value}
    (size : crowd.length + 1 = q) (several : 2 ≤ q) (once : Distinct crowd)
    (known : ∀ u ∈ crowd, start.actors.contains u = true ∧ done.contains u = false)
    {ds : List Value} (apart : Distinct ds) (listed : ∀ d ∈ ds, d ∈ start.documents)
    (played : Played start acted done n)
    (free : ∀ u ∈ crowd, ∀ e ∈ pending start acted, (acted e).contains u = false)
    (begun : ∀ d ∈ ds, 1 ≤ (acted d).length ∧ (acted d).length ≤ q) :
    ∃ acted' m, Played start acted' done m ∧ (∀ d ∈ ds, (acted' d).length = q) ∧
      ∀ e, ds.contains e = false → acted' e = acted e := by
  induction ds generalizing acted n with
  | nil => exact ⟨acted, n, played, by simp, fun _ _ => rfl⟩
  | cons d rest ih =>
    obtain ⟨absent, later⟩ := distinct_cons.1 apart
    rw [List.forall_mem_cons] at listed begun
    obtain ⟨least, most⟩ := begun.1
    have taken : (crowd.take (q - (acted d).length)).length = q - (acted d).length :=
      List.length_take_of_le (by omega)
    obtain ⟨acted₁, n₁, filled, shape⟩ := played.fill fresh listed.1
      (once.sublist (List.take_sublist (q - (acted d).length) crowd))
      (fun u member => by
        have among := List.mem_of_mem_take member
        exact ⟨(known u among).1, (known u among).2, free u among⟩)
      (fun k fewer => needs.unreached (by omega)) (needs.unreached several)
    have full : (acted₁ d).length = q := by
      rw [shape, if_pos (same_refl d), List.length_append, taken]
      omega
    have unchanged : ∀ e, (e == d) = false → acted₁ e = acted e := by
      intro e differs
      rw [shape, differs]
      rfl
    have still_free : ∀ u ∈ crowd, ∀ e ∈ pending start acted₁, (acted₁ e).contains u = false := by
      intro u member e open_after
      obtain ⟨among, short⟩ := mem_pending.1 open_after
      have differs : (e == d) = false := by
        rw [← Bool.not_eq_true]
        intro same
        rw [filled.follows.progress.alike same, full] at short
        exact Nat.lt_irrefl q (needs.lt_of_unreached short)
      rw [unchanged e differs] at short ⊢
      exact free u member e (mem_pending.2 ⟨among, short⟩)
    have still_begun : ∀ e ∈ rest, 1 ≤ (acted₁ e).length ∧ (acted₁ e).length ≤ q := by
      intro e member
      rw [unchanged e (differs_of_mem absent member)]
      exact begun.2 e member
    obtain ⟨acted₂, n₂, completed, lengths, kept⟩ :=
      ih later listed.2 filled still_free still_begun
    refine ⟨acted₂, n₂, completed, ?_, ?_⟩
    · rw [List.forall_mem_cons, kept d absent]
      exact ⟨full, lengths⟩
    · intro e outside
      rw [List.contains_cons, Bool.or_eq_false_iff] at outside
      rw [kept e outside.2, unchanged e outside.1]

end Play

end Node
end SignatureRouting
