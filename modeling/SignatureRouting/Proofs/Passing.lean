import SignatureRouting.Proofs.Exhaustion
import SignatureRouting.Proofs.Shares

/-!
What a run leaves behind. An action lands past finished nodes only, so every node before the landing
is complete or deserted: each actor of it is done. A deserted node can have a document that nobody
has acted on, exactly if it has fewer actors than documents. What each node before a place can
become by itself, a run can make of them one after the other.
-/
namespace SignatureRouting
open Value

namespace Node

/-- A document is left open that nobody has acted on, and nobody is left who may. -/
structure Strands (n : Node) (d : Value) : Prop where
  untouched : ∃ o ∈ n.opened, (o.id == d) = true ∧ o.actors = []
  deserted : ∀ v, n.isEligible v = false

theorem finished_of_complete {n : Node} (complete : n.opened = []) : n.isFinished = true := by
  rw [isFinished, complete]
  rfl

theorem deserted_of_finished {n : Node} (finished : n.isFinished = true) (some : n.opened ≠ [])
    (v : Value) : n.isEligible v = false := by
  rw [← Bool.not_eq_true]
  intro eligible
  rw [unfinished_of_eligible some eligible] at finished
  contradiction

section Follows
variable {start n : Node} {acted : Value → List Value} (h : Follows start n acted)
include h

theorem Follows.idle_of_strands {d : Value} (strands : n.Strands d) : acted d = [] := by
  obtain ⟨o, opened, same, nobody⟩ := strands.untouched
  obtain ⟨_, actors, _⟩ := h.progress.mem_opened opened
  rw [← h.progress.alike same, ← actors, nobody]

variable (fresh : start.Fresh)
include fresh

theorem Follows.strands_of_idle (finished : n.isFinished = true) {d : Value}
    (known : start.documents.contains d = true) (idle : acted d = []) : n.Strands d := by
  obtain ⟨e, listed, same⟩ := exists_same_of_contains known
  have nobody : acted e = [] := (h.progress.alike same).symm.trans idle
  have short : start.quota.isReachedBy (acted e).length = false := by
    rw [nobody, List.length_nil, not_reached_by_zero fresh.least]
  have opened := h.progress.opened_of_short listed short
  exact ⟨⟨_, opened, same_symm same, nobody⟩,
    deserted_of_finished finished (List.ne_nil_of_mem opened)⟩

/-- Whoever is done has acted on as many documents as the quota, and no document has had more of
these actions. One that is left open has had fewer. -/
theorem Follows.few_of_deserted {q : Nat} (needs : start.quota.Needs q) (some : n.opened ≠ [])
    (deserted : ∀ v, n.isEligible v = false) : start.actors.length < start.documents.length := by
  obtain ⟨o, opened⟩ := List.exists_mem_of_ne_nil _ some
  obtain ⟨known, actors, short⟩ := h.progress.mem_opened opened
  have nobody_left : remaining start n = [] := by
    rw [List.eq_nil_iff_forall_not_mem]
    intro v member
    obtain ⟨listed, absent⟩ := mem_remaining.1 member
    have idle := deserted v
    rw [h.roster.isEligible_eq, contains_of_mem listed, absent] at idle
    contradiction
  have pairs := h.pairs_le needs fresh known (needs.lt_of_unreached short) (by simp [nobody_left])
  have everyone := length_actors_le fresh n
  rw [nobody_left, List.length_nil, Nat.zero_add] at pairs everyone
  refine Nat.lt_of_le_of_lt everyone (Nat.lt_of_mul_lt_mul_left (a := q) ?_)
  omega

theorem Follows.few_of_strands {q : Nat} (needs : start.quota.Needs q) {d : Value}
    (strands : n.Strands d) : start.actors.length < start.documents.length := by
  obtain ⟨o, opened, _⟩ := strands.untouched
  exact h.few_of_deserted fresh needs (List.ne_nil_of_mem opened) strands.deserted

theorem Follows.unfinished_of_open (some : n.opened ≠ []) (nobody_done : n.doneActors = []) :
    n.isFinished = false := by
  obtain ⟨v, member⟩ := List.exists_mem_of_length_pos fresh.somebody
  refine unfinished_of_eligible some (v := v) ?_
  rw [h.roster.isEligible_eq, contains_of_mem member, nobody_done]
  rfl

theorem Follows.unfinished_of_never (never : ∀ count, start.quota.isReachedBy count = false) :
    n.isFinished = false := by
  obtain ⟨d, listed⟩ := List.exists_mem_of_ne_nil _ fresh.something
  have opened := h.progress.opened_of_short listed (never _)
  have nobody_done : n.doneActors = [] := by
    rw [List.eq_nil_iff_forall_not_mem]
    intro v done
    have reached := h.roster.earned v done
    rw [never] at reached
    contradiction
  exact h.unfinished_of_open fresh (List.ne_nil_of_mem opened) nobody_done

end Follows

section Fresh
variable {start : Node} (fresh : start.Fresh)
include fresh

theorem unfinished_of_fresh : start.isFinished = false := by
  obtain ⟨d, listed⟩ := List.exists_mem_of_ne_nil _ fresh.something
  have known := contains_of_mem (List.getElem_mem fresh.somebody)
  exact (played_fresh fresh).unfinished
    (mem_pending.2 ⟨listed, not_reached_by_zero fresh.least⟩) known rfl

theorem exists_played_by {ds : List Value} (sub : ds.Sublist start.documents) (some : ds ≠ [])
    {vs : List Value} (once : Distinct vs) (known : ∀ v ∈ vs, start.actors.contains v = true)
    (room : ∀ k < vs.length, start.quota.isReachedBy k = false) :
    ∃ acted done n, Played start acted done n ∧
      (∀ d, acted d = if ds.contains d then vs else []) ∧
      ∀ v, done.contains v = true → vs.contains v = true := by
  induction vs using List.reverseRecOn with
  | nil => exact ⟨_, [], start, played_fresh fresh, by simp, by simp⟩
  | append_singleton vs v ih =>
    rw [List.forall_mem_append, List.forall_mem_singleton] at known
    rw [List.length_append, List.length_singleton] at room
    obtain ⟨absent, earlier⟩ := distinct_cons.1 (once.perm (List.perm_append_singleton v vs).symm)
    obtain ⟨acted, done, n, played, shape, among⟩ :=
      ih earlier known.1 fun k fewer => room k (by omega)
    have active : done.contains v = false := by
      rw [← Bool.not_eq_true] at absent ⊢
      exact fun found => absent (among v found)
    have wanted : ∀ d ∈ ds, d ∈ pending start acted ∧ (acted d).contains v = false := by
      intro d listed
      rw [mem_pending, shape, if_pos (contains_of_mem listed)]
      exact ⟨⟨sub.subset listed, room vs.length (by omega)⟩, absent⟩
    obtain ⟨m, after⟩ := played.act fresh known.2 active some
      (fresh.documents_distinct.sublist sub) wanted
    refine ⟨_, _, m, after, fun d => ?_, fun w found => ?_⟩
    · rw [actedAfter, shape]
      split <;> rfl
    · rw [contains_append, contains_singleton, Bool.or_eq_true]
      unfold doneAfter at found
      split at found
      · rw [contains_append, contains_singleton, Bool.or_eq_true] at found
        exact found.imp (among w) id
      · exact Or.inl (among w found)

theorem exists_played_complete {q : Nat} (needs : start.quota.Needs q) {ds : List Value}
    (sub : ds.Sublist start.documents) (some : ds ≠ []) :
    ∃ acted done n, Played start acted done n ∧
      ∀ d, start.quota.isReachedBy (acted d).length = ds.contains d ∧
        (ds.contains d = false → acted d = []) := by
  obtain ⟨_, fits⟩ := needs.between fresh.least fresh.most
  have count : (start.actors.take q).length = q := List.length_take_of_le fits
  obtain ⟨acted, done, n, played, shape, _⟩ := exists_played_by fresh sub some
    (fresh.actors_distinct.sublist (List.take_sublist q start.actors))
    (fun v member => contains_of_mem (List.mem_of_mem_take member))
    (fun k fewer => needs.unreached (by omega))
  refine ⟨acted, done, n, played, fun d => ?_⟩
  rw [shape]
  cases among : ds.contains d with
  | true =>
    rw [if_pos rfl, count, needs, decide_eq_true (Nat.le_refl q)]
    simp
  | false =>
    rw [if_neg Bool.false_ne_true]
    exact ⟨not_reached_by_zero fresh.least, fun _ => rfl⟩

theorem exists_completed {q : Nat} (needs : start.quota.Needs q) :
    ∃ n, Worked start n ∧ n.opened = [] := by
  obtain ⟨acted, done, n, played, complete⟩ :=
    exists_played_complete fresh needs (List.Sublist.refl _) fresh.something
  refine ⟨n, played.worked, ?_⟩
  rw [played.follows.progress.opened, List.map_eq_nil_iff, List.filter_eq_nil_iff]
  intro d listed
  rw [(complete d).1, contains_of_mem listed]
  exact Bool.false_ne_true

theorem exists_stranded {q : Nat} (needs : start.quota.Needs q)
    (few : start.actors.length < start.documents.length) {d : Value}
    (known : start.documents.contains d = true) :
    ∃ n, Worked start n ∧ n.isFinished = true ∧ n.Strands d := by
  obtain ⟨least, fits⟩ := needs.between fresh.least fresh.most
  have one := filter_same_of_distinct fresh.documents_distinct d
  rw [if_pos known] at one
  have others := List.length_eq_length_filter_add (l := start.documents) (· == d)
  have sub : (start.documents.filter fun e => !(e == d)).Sublist start.documents :=
    List.filter_sublist
  have outside : (start.documents.filter fun e => !(e == d)).contains d = false := by
    rw [contains_filter _ fun e _ same => by rw [same_symm same, same_refl], same_refl,
      Bool.not_true, Bool.and_false]
  obtain ⟨n, played⟩ := exists_played_windows fresh needs least fresh.actors_distinct
    (fun v member => contains_of_mem member) sub fresh.somebody (by omega) (by omega)
  have finished : n.isFinished = true := by
    rw [isFinished, Bool.or_eq_true, List.all_eq_true]
    refine Or.inr fun v member => ?_
    rw [played.done]
    exact contains_of_mem (played.follows.roster.remaining.subset member)
  exact ⟨n, played.worked, finished,
    played.follows.strands_of_idle fresh finished known (takersOf_outside outside)⟩

end Fresh

end Node

theorem Automaton.advance_index (a : Automaton) (n : Node) :
    a.landing ≤ (a.advance n).index ∧ (a.advance n).index ≤ a.landing + 1 := by
  simp only [advance]
  split <;> omega

theorem Automaton.landing_advance {a : Automaton} {m : Node} (inside : a.landing < a.nodes.length)
    (unfinished : m.isFinished = false) :
    (a.advance m).landing = a.landing ∧ (a.advance m).nodes[a.landing]? = some m := by
  have some_open := unfinished
  rw [Node.isFinished, Bool.or_eq_false_iff] at some_open
  have index : (a.advance m).index = a.landing := by
    rw [advance, some_open.1]
    rfl
  have here : (a.advance m).nodes[a.landing]? = some m := List.getElem?_set_self inside
  exact ⟨(landing_of_unfinished (index ▸ here) unfinished).trans index, here⟩

theorem Automaton.landing_of_transition {a : Automaton} {x : Action} {t : Transition}
    (accepted : a.transition x = .ok t) : t.landing = a.landing := by
  obtain ⟨_, _, _, _, rfl⟩ := transition_eq_ok_iff.1 accepted
  rfl

theorem Automaton.landing_eq {a : Automaton} {k : Nat} {n : Node} (reached : a.index ≤ k)
    (passed : ∀ i < k, ∃ m, a.nodes[i]? = some m ∧ m.isFinished = true)
    (here : a.nodes[k]? = some n) (unfinished : n.isFinished = false) : a.landing = k := by
  rcases Nat.lt_trichotomy a.landing k with before | there | after
  · obtain ⟨m, found, finished⟩ := passed a.landing before
    rw [a.unfinished_at_landing found] at finished
    contradiction
  · exact there
  · obtain ⟨m, found, finished⟩ := a.finished_before_landing reached after
    obtain rfl := Option.some.inj (here.symm.trans found)
    rw [unfinished] at finished
    contradiction

section Run
variable {start a : Automaton} {deeds : List Deed}

theorem Run.finished_behind (run : Run start deeds a) (first : start.index = 0) {k : Nat}
    (before : k < a.landing) : ∃ n, a.nodes[k]? = some n ∧ n.isFinished = true := by
  induction run generalizing k with
  | none => exact Automaton.finished_before_landing (first ▸ Nat.zero_le k) before
  | @act deeds a x t earlier accepted ih =>
    by_cases passed : t.result.index ≤ k
    · exact Automaton.finished_before_landing passed before
    rw [Automaton.getElem?_result accepted]
    obtain ⟨n, requested, here, taken, rfl⟩ := Automaton.transition_eq_ok_iff.1 accepted
    simp only [Automaton.advance] at passed
    by_cases landed : a.landing = k
    · rw [if_pos landed]
      split at passed
      · rename_i complete
        exact ⟨_, rfl, by rw [Node.isFinished, complete, Bool.true_or]⟩
      · omega
    · rw [if_neg landed]
      refine ih ?_
      split at passed <;> omega

theorem Run.event_node_le (run : Run start deeds a) {e : Event} (member : e ∈ log deeds) :
    e.node ≤ a.index := by
  induction run with
  | none => simp [log] at member
  | @act deeds a x t before accepted ih =>
    obtain ⟨n, requested, _, _, rfl⟩ := Automaton.transition_eq_ok_iff.1 accepted
    have grown := (a.advance_index (n.record x.actor requested)).1
    rw [log_append_one] at member
    rcases List.mem_append.1 member with old | new
    · exact Nat.le_trans (ih old) (Nat.le_trans a.index_le_landing grown)
    · obtain ⟨d, _, rfl⟩ := List.mem_map.1 new
      exact grown

variable (run : Run start deeds a) (fresh : AllFresh start)
include run fresh

theorem Run.landed {x : Action} {t : Transition} (accepted : a.transition x = .ok t) {d : Value}
    (asked : t.requested.contains d = true) :
    ∃ s, start.nodes[t.landing]? = some s ∧ t.node.role = s.role ∧
      s.actors.contains x.actor = true ∧ s.documents.contains d = true := by
  obtain ⟨e, listed, same⟩ := exists_same_of_contains asked
  have member : ⟨t.landing, t.node.role, x.actor, e⟩ ∈ log (deeds ++ [⟨x, t⟩]) := by
    rw [log_append_one]
    exact List.mem_append_right _ (List.mem_map_of_mem listed)
  obtain ⟨s, emitted, role, actor, document⟩ := (Run.act run accepted).event fresh member
  exact ⟨s, emitted, role, actor, (contains_congr _ same).trans document⟩

theorem Run.landed_at {x : Action} {t : Transition} (accepted : a.transition x = .ok t) :
    ∃ s, start.nodes[t.landing]? = some s ∧ t.node.step = s.step ∧ t.node.role = s.role ∧
      x.tag.equals s.tag = true ∧ s.actors.contains x.actor = true := by
  obtain ⟨n, requested, here, taken, rfl⟩ := Automaton.transition_eq_ok_iff.1 accepted
  obtain ⟨s, emitted, follows⟩ := (run.follows fresh).start_of_node here
  obtain ⟨tag, eligible, _⟩ := Node.accept_eq_ok_iff.1 taken
  exact ⟨s, emitted, follows.step, follows.role, follows.tag ▸ tag,
    (follows.roster.of_eligible eligible).2.1⟩

omit run fresh in
theorem Run.deed_behind (run : Run start deeds a) (fresh : AllFresh start) {deed : Deed}
    (member : deed ∈ deeds) : deed.outcome.landing ≤ a.index ∧
      ∃ s, start.nodes[deed.outcome.landing]? = some s ∧ deed.outcome.node.role = s.role := by
  induction run with
  | none => simp at member
  | @act deeds a x t before accepted ih =>
    have moved : a.index ≤ t.result.index ∧ t.landing ≤ t.result.index := by
      obtain ⟨n, requested, _, _, rfl⟩ := Automaton.transition_eq_ok_iff.1 accepted
      have grown := (a.advance_index (n.record x.actor requested)).1
      exact ⟨Nat.le_trans a.index_le_landing grown, grown⟩
    rcases List.mem_append.1 member with old | new
    · obtain ⟨earlier, emitted⟩ := ih old
      exact ⟨Nat.le_trans earlier moved.1, emitted⟩
    · obtain rfl := List.mem_singleton.1 new
      obtain ⟨s, emitted, _, role, _⟩ := before.landed_at fresh accepted
      exact ⟨moved.2, s, emitted, role⟩

theorem Run.node_behind (first : start.index = 0) {k : Nat} (before : k < a.landing) {s : Node}
    (emitted : start.nodes[k]? = some s) :
    (∃ q, s.quota.Needs q) ∧ ∃ n, a.nodes[k]? = some n ∧ n.isFinished = true ∧
      Node.Follows s n (actorsOn (log deeds) k) := by
  obtain ⟨n, here, follows⟩ := (run.follows fresh).node_of_start emitted
  obtain ⟨m, found, finished⟩ := run.finished_behind first before
  obtain rfl := Option.some.inj (here.symm.trans found)
  have own := fresh.at emitted
  refine ⟨own.needs_iff.2 fun never => ?_, n, here, finished, follows⟩
  rw [follows.unfinished_of_never own never] at finished
  contradiction

theorem Run.landing_le_of_never (first : start.index = 0) {k : Nat} {s : Node}
    (emitted : start.nodes[k]? = some s) (never : ∀ count, s.quota.isReachedBy count = false) :
    a.landing ≤ k := by
  by_contra beyond
  have behind := run.node_behind fresh first (Nat.lt_of_not_le beyond) emitted
  exact (fresh.at emitted).needs_iff.1 behind.1 never

theorem Run.event_or_strands (first : start.index = 0) {k : Nat} (before : k < a.landing) {s : Node}
    (emitted : start.nodes[k]? = some s) {d : Value} (known : s.documents.contains d = true) :
    (∃ e ∈ log deeds, e.node = k ∧ (e.document == d) = true) ∨
      ∃ n, a.nodes[k]? = some n ∧ n.Strands d ∧ s.actors.length < s.documents.length := by
  obtain ⟨⟨q, needs⟩, n, here, finished, follows⟩ := run.node_behind fresh first before emitted
  by_cases idle : actorsOn (log deeds) k d = []
  · have strands := follows.strands_of_idle (fresh.at emitted) finished known idle
    exact Or.inr ⟨n, here, strands, follows.few_of_strands (fresh.at emitted) needs strands⟩
  · obtain ⟨v, member⟩ := List.exists_mem_of_ne_nil _ idle
    obtain ⟨e, logged, here, same, _⟩ := exists_event_of_mem member
    exact Or.inl ⟨e, logged, here, same⟩

theorem Run.exists_event_of_strands {k : Nat} {s n : Node} (emitted : start.nodes[k]? = some s)
    (here : a.nodes[k]? = some n) {d : Value} (strands : n.Strands d) {v : Value}
    (known : s.actors.contains v = true) :
    ∃ e ∈ log deeds, e.node = k ∧ (e.actor == v) = true := by
  have follows := (run.follows fresh).2 k s n emitted here
  have done : n.doneActors.contains v = true := by
    have deserted := strands.deserted v
    rwa [follows.roster.isEligible_eq, known, Bool.true_and, Bool.not_eq_false'] at deserted
  obtain ⟨d', _, found⟩ := follows.roster.exists_acted (fresh.at emitted).least done
  obtain ⟨v', member, same⟩ := exists_same_of_contains found
  obtain ⟨e, logged, at_node, _, rfl⟩ := exists_event_of_mem member
  exact ⟨e, logged, at_node, same_symm same⟩

theorem Run.not_strands_of_event {e : Event} (member : e ∈ log deeds) {d : Value}
    (same : (e.document == d) = true) {n : Node} (here : a.nodes[e.node]? = some n) :
    ¬ n.Strands d := by
  intro strands
  obtain ⟨s, _, follows⟩ := (run.follows fresh).start_of_node here
  have acted := mem_actorsOn member rfl same
  rw [follows.idle_of_strands strands] at acted
  contradiction

end Run

theorem exists_first_place {α : Type} {l : List α} {P : α → Prop} {x : α} (member : x ∈ l)
    (meets : P x) : ∃ (k : Nat) (y : α), l[k]? = some y ∧ P y ∧
      ∀ i < k, ∀ z, l[i]? = some z → ¬ P z := by
  classical
  have found : ∃ (k : Nat) (y : α), l[k]? = some y ∧ P y := by
    obtain ⟨k, here⟩ := List.mem_iff_getElem?.1 member
    exact ⟨k, x, here, meets⟩
  obtain ⟨y, here, first⟩ := Nat.find_spec found
  refine ⟨_, y, here, first, ?_⟩
  intro i before z at_i also
  exact Nat.find_min found before ⟨z, at_i, also⟩

theorem exists_run_of_worked {a : Automaton} {n m : Node} (here : a.nodes[a.landing]? = some n)
    (worked : Node.Worked n m) :
    ∃ deeds b, Run a deeds b ∧ b.nodes = a.nodes.set a.landing m ∧
      b.index ≤ (if m.opened.isEmpty then a.landing + 1 else a.landing) ∧
      (m.isFinished = false → b.landing = a.landing) := by
  have inside : a.landing < a.nodes.length := (List.getElem?_eq_some_iff.1 here).1
  induction worked with
  | none =>
    have reached := a.index_le_landing
    refine ⟨[], a, Run.none, ?_, by split <;> omega, fun _ => rfl⟩
    obtain ⟨_, rfl⟩ := List.getElem?_eq_some_iff.1 here
    rw [List.set_getElem_self]
  | @act m v ds requested before open_still taken ih =>
    obtain ⟨deeds, b, run, nodes, _, stays⟩ := ih
    have landed := stays open_still
    have current : b.nodes[b.landing]? = some m := by
      rw [nodes, landed, List.getElem?_set_self inside]
    have accepted := Automaton.transition_eq_ok_iff.2 ⟨m, requested, current, taken, rfl⟩
    have after : (b.advance (m.record v requested)).nodes =
        a.nodes.set a.landing (m.record v requested) := by
      rw [Automaton.advance, landed, nodes, List.set_set]
    have still_inside : b.landing < b.nodes.length := by
      rw [nodes, landed, List.length_set]
      exact inside
    refine ⟨_, _, Run.act run accepted, after, ?_, fun unfinished => ?_⟩
    · rw [Automaton.advance, landed]
    · exact (Automaton.landing_advance still_inside unfinished).1.trans landed

theorem exists_accepted {a : Automaton} {s : Node} (fresh : s.Fresh)
    (here : a.nodes[a.landing]? = some s) {v : Value} (among : v ∈ s.actors) {d : Value}
    (listed : d ∈ s.documents) :
    ∃ t, a.transition ⟨v, s.tag, [d]⟩ = .ok t ∧ t.landing = a.landing ∧ t.node.role = s.role ∧
      t.requested = [d] := by
  have follows := Node.follows_of_fresh fresh
  have eligible : s.isEligible v = true := by
    rw [follows.roster.isEligible_eq, contains_of_mem among, fresh.nobody_done]
    rfl
  have taken : s.accept ⟨v, s.tag, [d]⟩ = .ok [d] := by
    refine follows.accept_eq_ok fresh eligible (List.nodup_singleton _) fun e member => ?_
    obtain rfl := List.mem_singleton.1 member
    exact ⟨listed, not_reached_by_zero fresh.least, rfl⟩
  exact ⟨_, Automaton.transition_eq_ok_iff.2 ⟨s, [d], here, taken, rfl⟩, rfl, rfl, rfl⟩

section Through
variable {start : Automaton} (fresh : AllFresh start) (first : start.index = 0)
  {P : Nat → Node → Prop}
include fresh first

theorem exists_run_past {k : Nat} (inside : k ≤ start.nodes.length)
    (passable : ∀ i < k, ∀ s, start.nodes[i]? = some s →
      ∃ m, Node.Worked s m ∧ m.isFinished = true ∧ P i m) :
    ∃ deeds a, Run start deeds a ∧ a.index ≤ k ∧
      (∀ i < k, ∃ m, a.nodes[i]? = some m ∧ m.isFinished = true ∧ P i m) ∧
      ∀ i, k ≤ i → a.nodes[i]? = start.nodes[i]? := by
  induction k with
  | zero => exact ⟨[], start, Run.none, Nat.le_of_eq first, by simp, fun _ _ => rfl⟩
  | succ k ih =>
    obtain ⟨deeds, a, run, reached, behind, ahead⟩ :=
      ih (Nat.le_of_succ_le inside) fun i before => passable i (Nat.lt_succ_of_lt before)
    have emitted : start.nodes[k]? = some start.nodes[k] := List.getElem?_eq_getElem inside
    obtain ⟨m, worked, finished, shape⟩ := passable k (Nat.lt_succ_self k) _ emitted
    have here := (ahead k (Nat.le_refl k)).trans emitted
    have landed := Automaton.landing_eq reached
      (fun i before => (behind i before).imp fun _ found => ⟨found.1, found.2.1⟩) here
      (Node.unfinished_of_fresh (fresh.at emitted))
    have current : a.nodes[a.landing]? = some start.nodes[k] := by rw [landed, here]
    obtain ⟨more, b, later, nodes, index, _⟩ := exists_run_of_worked current worked
    rw [landed] at nodes index
    have moved : b.index ≤ k + 1 := by split at index <;> omega
    refine ⟨_, b, run.append later, moved, fun i before => ?_, fun i after => ?_⟩
    · rcases Nat.lt_or_eq_of_le (Nat.le_of_lt_succ before) with earlier | rfl
      · rw [nodes, List.getElem?_set_ne (Nat.ne_of_gt earlier)]
        exact behind i earlier
      · rw [nodes, List.getElem?_set_self (List.getElem?_eq_some_iff.1 here).1]
        exact ⟨m, rfl, finished, shape⟩
    · rw [nodes, List.getElem?_set_ne (by omega)]
      exact ahead i (by omega)

theorem exists_run_to {k : Nat} {s : Node} (emitted : start.nodes[k]? = some s)
    (passable : ∀ i < k, ∀ s, start.nodes[i]? = some s →
      ∃ m, Node.Worked s m ∧ m.isFinished = true ∧ P i m) :
    ∃ deeds a, Run start deeds a ∧ a.landing = k ∧ a.nodes[k]? = some s ∧
      ∀ i < k, ∃ m, a.nodes[i]? = some m ∧ P i m := by
  have inside : k < start.nodes.length := (List.getElem?_eq_some_iff.1 emitted).1
  obtain ⟨deeds, a, run, reached, behind, ahead⟩ :=
    exists_run_past fresh first (Nat.le_of_lt inside) passable
  have here := (ahead k (Nat.le_refl k)).trans emitted
  refine ⟨deeds, a, run, Automaton.landing_eq reached
    (fun i before => (behind i before).imp fun _ found => ⟨found.1, found.2.1⟩) here
    (Node.unfinished_of_fresh (fresh.at emitted)), here, fun i before => ?_⟩
  exact (behind i before).imp fun _ found => ⟨found.1, found.2.2⟩

theorem exists_run_completing {k : Nat} {s : Node} (emitted : start.nodes[k]? = some s)
    (finite : ∀ i < k, ∀ s, start.nodes[i]? = some s → ∃ q, s.quota.Needs q) :
    ∃ deeds a, Run start deeds a ∧ a.landing = k ∧ a.nodes[k]? = some s ∧
      ∀ i < k, ∃ m, a.nodes[i]? = some m ∧ m.opened = [] := by
  apply exists_run_to fresh first emitted
  intro i before s at_i
  obtain ⟨q, needs⟩ := finite i before s at_i
  obtain ⟨m, worked, complete⟩ := Node.exists_completed (fresh.at at_i) needs
  exact ⟨m, worked, Node.finished_of_complete complete, complete⟩

/-- On the way a document can be left behind wherever there are fewer actors than documents. -/
theorem exists_run_leaving {k : Nat} {s : Node} (emitted : start.nodes[k]? = some s) {d : Value}
    (passable : ∀ j < k, ∀ n, start.nodes[j]? = some n → (∃ q, n.quota.Needs q) ∧
      (P j n → n.actors.length < n.documents.length ∧ n.documents.contains d = true)) :
    ∃ deeds a, Run start deeds a ∧ a.landing = k ∧ a.nodes[k]? = some s ∧
      ∀ j < k, ∀ n, start.nodes[j]? = some n → P j n →
        ∃ m, a.nodes[j]? = some m ∧ m.Strands d := by
  obtain ⟨deeds, a, run, landed, here, behind⟩ := exists_run_to fresh first emitted
    (P := fun j m => ∀ n, start.nodes[j]? = some n → P j n → m.Strands d)
    fun j before n at_j => by
      obtain ⟨⟨q, needs⟩, few⟩ := passable j before n at_j
      by_cases leaving : P j n
      · obtain ⟨m, worked, finished, strands⟩ :=
          Node.exists_stranded (fresh.at at_j) needs (few leaving).1 (few leaving).2
        exact ⟨m, worked, finished, fun _ _ _ => strands⟩
      · obtain ⟨m, worked, complete⟩ := Node.exists_completed (fresh.at at_j) needs
        refine ⟨m, worked, Node.finished_of_complete complete, fun n' again also => ?_⟩
        obtain rfl := Option.some.inj (at_j.symm.trans again)
        exact absurd also leaving
  refine ⟨deeds, a, run, landed, here, fun j before n at_j leaving => ?_⟩
  obtain ⟨m, found, strands⟩ := behind j before
  exact ⟨m, found, strands n at_j leaving⟩

end Through

end SignatureRouting
