import SignatureRouting.Proofs.Frontier

/-!
When an actor is done at a node. It is done by the action after which it stands on as many documents
as the quota, and only documents count that were still open before that action. What others have
completed in the meantime is forgotten, so an actor who has acted on as many documents as the quota
need not be done. It always is exactly if no node that can be come to asks for two actors or more
and has as many documents as actors are asked for.
-/
namespace SignatureRouting
open Value

namespace Node

def total (start : Node) (acted : Value → List Value) (v : Value) : Nat :=
  start.documents.countP fun d => (acted d).contains v

/-- On how many of the documents that were open before an action an actor stands after it. -/
def standing (start : Node) (before after : Value → List Value) (v : Value) : Nat :=
  (pending start before).countP fun d => (after d).contains v

/-- An actor who would be done by an action now, but not if another acts first: documents that the
other completes are forgotten. -/
def Delays (n : Node) (u : Value) (ds : List Value) (v : Value) (es : List Value) : Prop :=
  n.quota.isReachedBy (n.opened.countP fun o => (touch v es o).actors.contains v) = true ∧
    n.quota.isReachedBy (n.opened.countP fun o =>
      !n.quota.isReachedBy (touch u ds o).actors.length && (touch v es o).actors.contains v) = false

def CanForget (n : Node) : Prop :=
  ∃ q, n.quota.Needs q ∧ 2 ≤ q ∧ q ≤ n.documents.length

section Follows
variable {start n : Node} {acted : Value → List Value}

theorem total_congr {v w : Value} (same : (v == w) = true) :
    start.total acted v = start.total acted w :=
  List.countP_congr fun d _ => by rw [contains_congr _ same]

theorem standing_congr {before : Value → List Value} {v w : Value} (same : (v == w) = true) :
    start.standing before acted v = start.standing before acted w :=
  List.countP_congr fun d _ => by rw [contains_congr _ same]

theorem total_le (v : Value) : start.total acted v ≤ start.documents.length :=
  List.countP_le_length

theorem standing_le_total (before : Value → List Value) (v : Value) :
    start.standing before acted v ≤ start.total acted v :=
  List.filter_sublist.countP_le

theorem contains_after_both {u v : Value} (differ : (v == u) = false) (ds es : List Value)
    (d : Value) : (actedAfter (actedAfter acted u ds) v es d).contains v =
      (actedAfter acted v es d).contains v := by
  simp only [contains_actedAfter, differ, Bool.and_false, Bool.or_false]

theorem total_after_both {u v : Value} (differ : (v == u) = false) {ds es : List Value} :
    start.total (actedAfter (actedAfter acted u ds) v es) v =
      start.total (actedAfter acted v es) v := by
  simp only [total, contains_after_both differ]

theorem standing_actedAfter_le {u v : Value} (differ : (v == u) = false) (ds es : List Value) :
    start.standing (actedAfter acted u ds) (actedAfter (actedAfter acted u ds) v es) v ≤
      start.standing acted (actedAfter acted v es) v := by
  simp only [standing, contains_after_both differ]
  apply List.Sublist.countP_le
  rw [pending, ← filter_short_grown start.quota start.documents
    (length_le_actedAfter acted u ds)]
  exact List.filter_sublist

variable (h : Follows start n acted)
include h

theorem Follows.total_of_done {v : Value} (done : n.doneActors.contains v = true) :
    start.quota.isReachedBy (start.total acted v) = true := by
  obtain ⟨w, member, same⟩ := exists_same_of_contains done
  rw [total_congr same]
  exact h.roster.earned w member

theorem Follows.count_standing (v : Value) (es : List Value) :
    (n.opened.countP fun o => (touch v es o).actors.contains v) =
      start.standing acted (actedAfter acted v es) v := by
  rw [h.progress.opened, List.countP_map, standing, pending]
  refine List.countP_congr fun d _ => ?_
  rw [Function.comp_apply, touch_entry]

theorem Follows.retires_eq (u : Value) (ds : List Value) :
    n.retires u (n.opened.map (touch u ds)) =
      start.quota.isReachedBy (start.standing acted (actedAfter acted u ds) u) := by
  rw [retires, isReachedBy_congr h.quota, List.countP_map, ← h.count_standing]
  rfl

theorem Follows.contains_done_record (apart : Distinct start.documents) (u v : Value)
    (ds : List Value) :
    (n.record u ds).doneActors.contains v = (n.doneActors.contains v || (v == u &&
      start.quota.isReachedBy (start.standing acted (actedAfter acted u ds) u))) := by
  rw [record_doneActors (h.progress.documents_distinct apart), h.retires_eq]
  split
  · rename_i goes
    rw [contains_append, contains_singleton, goes, Bool.and_true]
  · rename_i stays
    rw [Bool.not_eq_true] at stays
    rw [stays, Bool.and_false, Bool.or_false]

theorem Follows.delays_iff {u v : Value} (differ : (v == u) = false) {ds es : List Value} :
    n.Delays u ds v es ↔
      start.quota.isReachedBy (start.standing acted (actedAfter acted v es) v) = true ∧
      start.quota.isReachedBy (start.standing (actedAfter acted u ds)
        (actedAfter (actedAfter acted u ds) v es) v) = false := by
  have later : (n.opened.countP fun o => !n.quota.isReachedBy (touch u ds o).actors.length &&
      (touch v es o).actors.contains v) = start.standing (actedAfter acted u ds)
        (actedAfter (actedAfter acted u ds) v es) v := by
    rw [standing, pending, ← filter_short_grown start.quota start.documents
      (length_le_actedAfter acted u ds), List.countP_filter, h.progress.opened, List.countP_map]
    refine List.countP_congr fun d _ => ?_
    simp only [Function.comp_apply, touch_entry, isReachedBy_congr h.quota,
      contains_after_both differ]
    rw [Bool.and_comm]
  rw [Delays, later, h.count_standing, isReachedBy_congr h.quota, isReachedBy_congr h.quota]

theorem Follows.canForget_of_delays (fresh : start.Fresh) {u v : Value} {ds es : List Value}
    (differ : (v == u) = false) (some : es ≠ []) (apart : Apart ds es)
    (clear : ∀ e ∈ es, n.obstacle? v e = none) (delays : n.Delays u ds v es) :
    start.CanForget := by
  obtain ⟨reached, short⟩ := (h.delays_iff differ).1 delays
  obtain ⟨q, needs⟩ : ∃ q, start.quota.Needs q := by
    apply fresh.needs_iff.2
    intro never
    rw [never] at reached
    contradiction
  refine ⟨q, needs, ?_, ?_⟩
  · -- A document that the second action takes is open before it, whatever the first one completes.
    obtain ⟨e, member⟩ := List.exists_mem_of_ne_nil _ some
    obtain ⟨known, room, _⟩ :=
      (h.obstacle?_eq_none_iff fresh.documents_distinct).1 (clear e member)
    obtain ⟨d, listed, same⟩ := exists_same_of_contains known
    have untaken : ds.contains d = false := (contains_congr ds same).symm.trans (apart e member)
    have unchanged : actedAfter acted u ds d = acted d := actedAfter_of_unasked untaken
    have stands : 0 < start.standing (actedAfter acted u ds)
        (actedAfter (actedAfter acted u ds) v es) v := by
      rw [standing, List.countP_pos_iff]
      refine ⟨d, mem_pending.2 ⟨listed, ?_⟩, ?_⟩
      · rw [unchanged, ← h.progress.alike same]
        exact room
      · rw [contains_actedAfter, (contains_congr es same).symm.trans (contains_of_mem member),
          same_refl, Bool.and_true, Bool.or_true]
    have above := needs.lt_of_unreached short
    omega
  · rw [needs, decide_eq_true_eq] at reached
    exact Nat.le_trans reached (Nat.le_trans (standing_le_total acted v) (total_le v))

end Follows

structure AcceptsBoth (n : Node) (x y : Action) (ds es : List Value) : Prop where
  differ : (y.actor == x.actor) = false
  first_some : ds ≠ []
  second_some : es ≠ []
  apart : Apart ds es
  first : n.accept x = .ok ds
  second : (n.record x.actor ds).accept y = .ok es

/-- One actor has acted on a document, which a second one would complete. As many other documents
are untouched as make up the quota together with it. -/
structure Begun (start n : Node) (acted : Value → List Value) (q : Nat) (u v d : Value)
    (es : List Value) : Prop where
  played : Played start acted [] n
  first_known : start.actors.contains u = true
  second_known : start.actors.contains v = true
  differ : (v == u) = false
  once : Distinct (d :: es)
  listed : ∀ e ∈ d :: es, e ∈ start.documents
  crowd : (acted d).length + 1 = q
  without : (acted d).contains u = false
  stands : (acted d).contains v = true
  idle : ∀ e, (e == d) = false → acted e = []
  others : es.length + 1 = q

theorem exists_begun {start : Node} (fresh : start.Fresh) {q : Nat} (needs : start.quota.Needs q)
    (several : 2 ≤ q) (enough : q ≤ start.documents.length) :
    ∃ acted n u v d es, Begun start n acted q u v d es := by
  obtain ⟨_, fits⟩ := needs.between fresh.least fresh.most
  have documents := fresh.documents_distinct
  have actors := fresh.actors_distinct
  obtain ⟨d, rest, all⟩ := List.exists_cons_of_ne_nil fresh.something
  obtain ⟨v, u, others, everyone⟩ : ∃ v u others, start.actors = v :: u :: others := by
    match start.actors, fits with
    | v :: u :: others, _ => exact ⟨v, u, others, rfl⟩
    | [_], fits => exact absurd (Nat.le_trans several fits) (by simp)
    | [], fits => exact absurd (Nat.le_trans several fits) (by simp)
  have known : ∀ w ∈ v :: u :: others, start.actors.contains w = true := by
    rw [everyone]
    exact fun w member => contains_of_mem member
  rw [all] at documents enough
  rw [everyone] at actors fits
  simp only [List.length_cons] at enough fits
  rw [distinct_cons, distinct_cons, List.contains_cons, Bool.or_eq_false_iff] at actors
  obtain ⟨⟨differ, v_outside⟩, u_outside, apart⟩ := actors
  -- Those who act on the document are one fewer than the quota, and the second actor is not there.
  have size : (v :: others.take (q - 2)).length + 1 = q := by
    rw [List.length_cons, List.length_take_of_le (by omega)]
    omega
  have sub := List.take_sublist (q - 2) others
  have once : Distinct (v :: others.take (q - 2)) :=
    distinct_cons.2 ⟨not_contains_of_sublist sub v_outside, apart.sublist sub⟩
  obtain ⟨acted, n, played, shape⟩ := (played_fresh fresh).fill fresh (d := d)
    (by rw [all]; exact List.mem_cons_self) once
    (fun w member => by
      refine ⟨known w ?_, rfl, fun _ _ => rfl⟩
      rcases List.mem_cons.1 member with rfl | later
      · exact List.mem_cons_self
      · exact List.mem_cons_of_mem _ (List.mem_cons_of_mem _ (sub.subset later)))
    (fun k fewer => by
      rw [List.length_nil, Nat.zero_add]
      exact needs.unreached (by omega))
    (needs.unreached several)
  have here : acted d = v :: others.take (q - 2) := by
    rw [shape, if_pos (same_refl d)]
    rfl
  refine ⟨acted, n, u, v, d, rest.take (q - 1), played, known u (by simp), known v (by simp),
    differ, documents.sublist ((List.take_sublist _ _).cons_cons d), ?_, ?_, ?_, ?_, ?_, ?_⟩
  · rw [all]
    exact ((List.take_sublist (q - 1) rest).cons_cons d).subset
  · rw [here]
    exact size
  · rw [here, List.contains_cons, same_comm, differ, Bool.false_or]
    exact not_contains_of_sublist sub u_outside
  · rw [here, List.contains_cons, same_refl, Bool.true_or]
  · intro e other
    rw [shape, other]
    rfl
  · rw [List.length_take_of_le (by omega)]
    omega

section Begun
variable {start n : Node} {acted : Value → List Value} {q : Nat} {u v d : Value} {es : List Value}
  (begun : Begun start n acted q u v d es)
include begun

theorem Begun.differs {e : Value} (member : e ∈ es) : (e == d) = false :=
  differs_of_mem (distinct_cons.1 begun.once).1 member

theorem Begun.actedAfter_other {e : Value} (member : e ∈ es) : actedAfter acted u [d] e = [] := by
  have outside := (contains_singleton e d).trans (begun.differs member)
  exact (actedAfter_of_unasked outside).trans (begun.idle e (begun.differs member))

variable (needs : start.quota.Needs q) (several : 2 ≤ q)
include needs several

theorem Begun.pending {e : Value} (member : e ∈ d :: es) : e ∈ pending start acted := by
  refine mem_pending.2 ⟨begun.listed e member, needs.unreached ?_⟩
  have crowd := begun.crowd
  rcases List.mem_cons.1 member with rfl | other
  · omega
  · rw [begun.idle e (begun.differs other), List.length_nil]
    omega

theorem Begun.pending_after {e : Value} (member : e ∈ es) :
    e ∈ Node.pending start (actedAfter acted u [d]) := by
  refine mem_pending.2 ⟨begun.listed e (List.mem_cons_of_mem d member), needs.unreached ?_⟩
  rw [begun.actedAfter_other member, List.length_nil]
  omega

theorem Begun.delays (fresh : start.Fresh) : n.Delays u [d] v es := by
  refine (begun.played.follows.delays_iff begun.differ).2 ⟨?_, ?_⟩
  · rw [needs, decide_eq_true_eq, standing, List.countP_eq_length_filter]
    have count := begun.others
    rw [← count, ← List.length_cons (a := d)]
    refine begun.once.length_le fun e member => contains_of_mem (List.mem_filter.2 ⟨?_, ?_⟩)
    · exact begun.pending needs several member
    · rw [contains_actedAfter, same_refl, Bool.and_true]
      rcases List.mem_cons.1 member with rfl | other
      · rw [begun.stands, Bool.true_or]
      · rw [contains_of_mem other, Bool.or_true]
  · apply needs.unreached
    rw [← begun.others, Nat.lt_succ_iff, standing, List.countP_eq_length_filter]
    refine Distinct.length_le ?_ fun e member => ?_
    · exact fresh.documents_distinct.sublist (List.filter_sublist.trans List.filter_sublist)
    · obtain ⟨open_after, among⟩ := List.mem_filter.1 member
      obtain ⟨_, short⟩ := mem_pending.1 open_after
      rw [contains_after_both begun.differ, contains_actedAfter, same_refl, Bool.and_true,
        Bool.or_eq_true] at among
      refine among.resolve_left fun before => ?_
      by_cases same : (e == d) = true
      · have full : (actedAfter acted u [d] e).length = q := by
          rw [actedAfter_of_asked ((contains_singleton e d).trans same), List.length_append,
            begun.played.follows.progress.alike same]
          exact begun.crowd
        rw [full] at short
        exact Nat.lt_irrefl q (needs.lt_of_unreached short)
      · rw [Bool.not_eq_true] at same
        rw [begun.idle e same] at before
        contradiction

theorem Begun.acceptsBoth (fresh : start.Fresh) :
    n.AcceptsBoth ⟨u, n.tag, [d]⟩ ⟨v, n.tag, es⟩ [d] es := by
  have played := begun.played
  have wanted : ∀ e ∈ [d], e ∈ Node.pending start acted ∧ (acted e).contains u = false := by
    rw [List.forall_mem_singleton]
    exact ⟨begun.pending needs several List.mem_cons_self, begun.without⟩
  have absent : ∀ e ∈ Node.pending start acted, (acted e).contains u = false := by
    intro e _
    by_cases same : (e == d) = true
    · rw [played.follows.progress.alike same]
      exact begun.without
    · rw [begun.idle e (Bool.eq_false_iff.2 same)]
      rfl
  obtain ⟨outside, apart⟩ := distinct_cons.1 begun.once
  have after := played.record fresh begun.first_known rfl (List.cons_ne_nil d [])
    (List.nodup_singleton _) wanted
  rw [doneAfter_of_idle fresh absent (needs.unreached several)] at after
  have wanted_after : ∀ e ∈ es, e ∈ Node.pending start (actedAfter acted u [d]) ∧
      (actedAfter acted u [d] e).contains v = false := by
    intro e member
    rw [begun.actedAfter_other member]
    exact ⟨begun.pending_after needs several member, rfl⟩
  constructor
  case differ => exact begun.differ
  case first_some => exact List.cons_ne_nil d []
  case second_some =>
    have count := begun.others
    rintro rfl
    rw [List.length_nil] at count
    omega
  case apart =>
    intro e member
    rw [contains_singleton]
    exact begun.differs member
  case first => exact played.accept fresh begun.first_known rfl (List.nodup_singleton _) wanted
  case second => exact after.accept fresh begun.second_known rfl apart wanted_after

end Begun

theorem exists_delaying {start : Node} (fresh : start.Fresh) (forgets : start.CanForget) :
    ∃ n x y ds es, Worked start n ∧ n.AcceptsBoth x y ds es ∧
      n.Delays x.actor ds y.actor es := by
  obtain ⟨q, needs, several, enough⟩ := forgets
  obtain ⟨acted, n, u, v, d, es, begun⟩ := exists_begun fresh needs several enough
  exact ⟨n, ⟨u, n.tag, [d]⟩, ⟨v, n.tag, es⟩, [d], es, begun.played.worked,
    begun.acceptsBoth needs several fresh, begun.delays needs several fresh⟩

end Node

section Parts
variable {α : Type} {P : List α → α → Prop} {l : List α} {x : α}

theorem exists_part_append_one : (∃ front y back, l ++ [x] = front ++ y :: back ∧ P front y) ↔
    (∃ front y back, l = front ++ y :: back ∧ P front y) ∨ P l x := by
  constructor
  · rintro ⟨front, y, back, parts, holds⟩
    rcases List.eq_nil_or_concat back with rfl | ⟨earlier, last, rfl⟩
    · obtain ⟨rfl, same⟩ := List.append_inj' parts rfl
      obtain rfl := List.singleton_inj.1 same
      exact Or.inr holds
    · rw [List.concat_eq_append, ← List.cons_append, ← List.append_assoc] at parts
      exact Or.inl ⟨front, y, earlier, (List.append_inj' parts rfl).1, holds⟩
  · rintro (⟨front, y, back, rfl, holds⟩ | holds)
    · exact ⟨front, y, back ++ [x], by simp, holds⟩
    · exact ⟨l, x, [], rfl, holds⟩

end Parts

/-- By a deed an actor comes to stand on as many documents of a node as the quota, of those that
were open before. -/
def Deed.Retires (deed : Deed) (front : List Deed) (k : Nat) (start : Node) (v : Value) : Prop :=
  deed.outcome.landing = k ∧ (deed.action.actor == v) = true ∧
    start.quota.isReachedBy (start.standing (actorsOn (log front) k)
      (actorsOn (log (front ++ [deed])) k) v) = true

section Run
variable {start a : Automaton} {deeds : List Deed} (run : Run start deeds a)
  (fresh : AllFresh start)
include run fresh

theorem Run.done_iff {k : Nat} {s n : Node} (emitted : start.nodes[k]? = some s)
    (here : a.nodes[k]? = some n) (v : Value) : n.doneActors.contains v = true ↔
      ∃ front deed back, deeds = front ++ deed :: back ∧ deed.Retires front k s v := by
  induction run generalizing n with
  | none =>
    obtain rfl := Option.some.inj (emitted.symm.trans here)
    simp [(fresh.at emitted).nobody_done]
  | @act deeds a x t before accepted ih =>
    have apart := (fresh.at emitted).documents_distinct
    refine Iff.trans ?_ (exists_part_append_one
      (P := fun front (deed : Deed) => deed.Retires front k s v)).symm
    rw [Automaton.getElem?_result accepted] at here
    by_cases landed : t.landing = k
    · rw [if_pos landed, Option.some.injEq] at here
      obtain ⟨m, found, became, _⟩ := Automaton.of_transition accepted
      rw [landed] at found
      have follows := (before.follows fresh).2 k s m emitted found
      rw [← here, became, follows.contains_done_record apart, Bool.or_eq_true, ih found,
        Bool.and_eq_true]
      refine or_congr_right ?_
      rw [Deed.Retires, actorsOn_deed accepted, if_pos landed, same_comm v]
      refine ⟨fun ⟨same, reached⟩ => ⟨landed, same, ?_⟩, fun ⟨_, same, reached⟩ => ⟨same, ?_⟩⟩
      · rw [← Node.standing_congr same]
        exact reached
      · rw [Node.standing_congr same]
        exact reached
    · rw [if_neg landed] at here
      rw [ih here]
      exact ⟨Or.inl, fun either => either.resolve_right fun retires => landed retires.1⟩

end Run

namespace Automaton

def CanForget (start : Automaton) : Prop :=
  ∃ (k : Nat) (n : Node), start.nodes[k]? = some n ∧ n.CanForget ∧
    ∀ i < k, ∀ m : Node, start.nodes[i]? = some m → ∃ p, m.quota.Needs p

def HasQuotaLaw (start : Automaton) : Prop :=
  ∀ deeds a, Run start deeds a → ∀ (k : Nat) (s n : Node), start.nodes[k]? = some s →
    a.nodes[k]? = some n → ∀ v, s.actors.contains v = true →
      (n.doneActors.contains v = true ↔
        s.quota.isReachedBy (s.total (actorsOn (log deeds) k) v) = true)

theorem advance_advance {a : Automaton} {m : Node} (landed : (a.advance m).landing = a.landing)
    (n : Node) : (a.advance m).advance n = a.advance n := by
  rw [advance, landed]
  simp only [advance, List.set_set]

theorem transitions_of_acceptsBoth {a : Automaton} {n : Node}
    (here : a.nodes[a.landing]? = some n) {x y : Action} {ds es : List Value}
    (both : n.AcceptsBoth x y ds es) :
    ∃ t t', a.transition x = .ok t ∧ t.result.transition y = .ok t' ∧
      t.landing = a.landing ∧ t'.landing = a.landing ∧ t.requested = ds ∧ t'.requested = es ∧
      t'.node = (n.record x.actor ds).record y.actor es ∧ t'.result = a.advance t'.node := by
  have inside := (List.getElem?_eq_some_iff.1 here).1
  obtain ⟨landed, there⟩ :=
    landing_advance inside (Node.unfinished_of_accept both.second both.second_some)
  rw [← landed] at there
  exact ⟨_, _, transition_eq_ok_iff.2 ⟨n, ds, here, both.first, rfl⟩,
    transition_eq_ok_iff.2 ⟨_, es, there, both.second, rfl⟩, rfl, landed, rfl, rfl, rfl,
    advance_advance landed _⟩

end Automaton

section Forgetting
variable {start : Automaton} (fresh : AllFresh start) (first : start.index = 0)
include fresh first

theorem exists_run_delaying (forgets : start.CanForget) :
    ∃ deeds a n x y ds es, Run start deeds a ∧ a.nodes[a.landing]? = some n ∧
      n.AcceptsBoth x y ds es ∧ n.Delays x.actor ds y.actor es := by
  obtain ⟨k, s, emitted, may, finite⟩ := forgets
  obtain ⟨n, x, y, ds, es, worked, both, delays⟩ := Node.exists_delaying (fresh.at emitted) may
  obtain ⟨deeds, a, run, landed, here, _⟩ := exists_run_completing fresh first emitted finite
  rw [← landed] at here
  obtain ⟨more, b, later, nodes, _, stays⟩ := exists_run_of_worked here worked
  refine ⟨_, b, n, x, y, ds, es, run.append later, ?_, both, delays⟩
  rw [stays (Node.unfinished_of_accept both.first both.first_some), nodes,
    List.getElem?_set_self (List.getElem?_eq_some_iff.1 here).1]

theorem canForget_of_run {deeds : List Deed} {a : Automaton} (run : Run start deeds a) {k : Nat}
    (reached : k ≤ a.landing) {s : Node} (emitted : start.nodes[k]? = some s)
    (may : s.CanForget) : start.CanForget := by
  refine ⟨k, s, emitted, may, fun i before m at_i => ?_⟩
  exact (run.node_behind fresh first (Nat.lt_of_lt_of_le before reached) at_i).1

theorem not_canForget_of_hasQuotaLaw (law : start.HasQuotaLaw) : ¬ start.CanForget := by
  intro forgets
  obtain ⟨deeds, a, n, x, y, ds, es, run, here, both, delays⟩ :=
    exists_run_delaying fresh first forgets
  obtain ⟨t, t', taken, taken', landed, landed', asked, asked', became, _⟩ :=
    Automaton.transitions_of_acceptsBoth here both
  obtain ⟨s, emitted, follows⟩ := (run.follows fresh).start_of_node here
  have apart := (fresh.at emitted).documents_distinct
  obtain ⟨reached, short⟩ := (follows.delays_iff both.differ).1 delays
  have after : t'.result.nodes[a.landing]? = some ((n.record x.actor ds).record y.actor es) := by
    rw [Automaton.getElem?_result taken', if_pos landed', became]
  have logged := actorsOn_deed taken' (deeds ++ [⟨x, t⟩]) a.landing
  rw [if_pos landed', actorsOn_deed taken, if_pos landed, asked, asked'] at logged
  obtain ⟨_, eligible, _⟩ := Node.accept_eq_ok_iff.1 both.second
  have still := follows.of_accept (fresh.at emitted) both.first
  obtain ⟨_, known, not_done⟩ := still.roster.of_eligible eligible
  have stays : ((n.record x.actor ds).record y.actor es).doneActors.contains y.actor = false := by
    rw [still.contains_done_record apart, short, not_done, Bool.and_false, Bool.or_false]
  have done := (law _ _ ((run.act taken).act taken') _ s _ emitted after y.actor known).2 (by
    rw [logged, Node.total_after_both both.differ]
    exact isReachedBy_mono reached (Node.standing_le_total _ y.actor))
  rw [stays] at done
  contradiction

theorem hasQuotaLaw_of_not_canForget (never : ¬ start.CanForget) : start.HasQuotaLaw := by
  intro deeds a run k s n emitted here v known
  have own := fresh.at emitted
  have follows := (run.follows fresh).2 k s n emitted here
  refine ⟨follows.total_of_done, fun reached => ?_⟩
  obtain ⟨q, needs⟩ : ∃ q, s.quota.Needs q := by
    apply own.needs_iff.2
    intro unreachable
    rw [unreachable] at reached
    contradiction
  have some_document : 0 < s.total (actorsOn (log deeds) k) v := by
    by_contra none
    rw [Nat.eq_zero_of_not_pos none, not_reached_by_zero own.least] at reached
    contradiction
  obtain ⟨d, listed, acts⟩ := List.countP_pos_iff.1 some_document
  obtain ⟨w, member, same⟩ := exists_same_of_contains acts
  obtain ⟨e, logged, at_node, matching, rfl⟩ := exists_event_of_mem member
  -- The node was come to and cannot forget, so a single actor is asked for, or nobody can have
  -- acted on enough documents.
  have come_to : k ≤ a.landing := by
    rw [← at_node]
    exact Nat.le_trans (run.event_node_le logged) a.index_le_landing
  have single : q < 2 := by
    by_contra several
    apply never
    refine canForget_of_run fresh first run come_to emitted ⟨q, needs, Nat.le_of_not_lt several, ?_⟩
    rw [needs, decide_eq_true_eq] at reached
    exact Nat.le_trans reached (Node.total_le v)
  obtain ⟨deed, among, own_event⟩ := List.mem_flatMap.1 logged
  obtain ⟨front, back, rfl⟩ := List.append_of_mem among
  obtain ⟨document, asked, rfl⟩ := List.mem_map.1 own_event
  obtain ⟨b, before, accepted⟩ := run.at_deed
  refine (run.done_iff fresh emitted here v).2
    ⟨front, deed, back, rfl, at_node, same_symm same, ?_⟩
  obtain ⟨m, found, _, _, _, clear⟩ := Automaton.of_transition accepted
  have at_b : b.nodes[k]? = some m := at_node ▸ found
  have earlier := (before.follows fresh).2 k s m emitted at_b
  obtain ⟨_, room, _⟩ :=
    (earlier.obstacle?_eq_none_iff own.documents_distinct).1 (clear document asked)
  have stands : 0 < s.standing (actorsOn (log front) k)
      (actorsOn (log (front ++ [deed])) k) v := by
    rw [Node.standing, List.countP_pos_iff]
    refine ⟨d, Node.mem_pending.2 ⟨listed, ?_⟩, ?_⟩
    · rw [← earlier.progress.alike matching]
      exact room
    · rw [actorsOn_deed accepted, if_pos at_node, Node.contains_actedAfter,
        ← contains_congr _ matching, contains_of_mem asked, same, Bool.and_self, Bool.or_true]
  rw [needs, decide_eq_true_eq]
  omega

end Forgetting

/-- In a built workflow an actor is done exactly by a deed that retires it, and has then acted on as
many documents of the node as the quota. The converse holds in all runs exactly if no node that can
be come to asks for two actors or more and has as many documents as are asked for. -/
theorem quota_law_iff_never_forgets {setting : Setting} {history : History}
    {steps : Option (List StepItem)} {documents : Option (List Value)} {w : Workflow}
    (built : Workflow.build setting history steps documents = .ok w) :
    (∀ deeds a, Run w.automaton deeds a → ∀ (k : Nat) (s n : Node),
      w.automaton.nodes[k]? = some s → a.nodes[k]? = some n →
      ∀ v, s.actors.contains v = true →
        (n.doneActors.contains v = true ↔
          ∃ front deed back, deeds = front ++ deed :: back ∧ deed.Retires front k s v) ∧
        (n.doneActors.contains v = true →
          s.quota.isReachedBy (s.total (actorsOn (log deeds) k) v) = true) ∧
        (n.doneActors.contains v = false → n.actors.contains v = true)) ∧
    (w.automaton.HasQuotaLaw ↔ ¬ w.automaton.CanForget) := by
  have fresh := Workflow.fresh_of_build built
  have first := (Workflow.start_of_build built).1
  refine ⟨?_, not_canForget_of_hasQuotaLaw fresh first, hasQuotaLaw_of_not_canForget fresh first⟩
  intro deeds a run k s n emitted here v known
  have follows := (run.follows fresh).2 k s n emitted here
  refine ⟨run.done_iff fresh emitted here v, follows.total_of_done, fun active => ?_⟩
  rcases follows.roster.known v known with still | done
  · exact still
  · rw [active] at done
    contradiction

theorem quota_law_with_one :
    ∃ w, Workflow.build office .empty (some (pairSigning.take 1)) (some [.int 10]) = .ok w ∧
      w.automaton.HasQuotaLaw := by
  have built : ∃ w, Workflow.build office .empty (some (pairSigning.take 1))
      (some [.int 10]) = .ok w ∧ ∃ s, w.automaton.nodes = [s] ∧ s.quota = .int 2 ∧
      s.documents = [.int 10] := ⟨_, rfl, _, rfl, rfl, rfl⟩
  obtain ⟨w, built, s, nodes, quota, documents⟩ := built
  refine ⟨w, built, (quota_law_iff_never_forgets built).2.2 ?_⟩
  rintro ⟨k, n, emitted, ⟨q, _, several, enough⟩, _⟩
  obtain rfl : n = s := by
    have member := List.mem_of_getElem? emitted
    rw [nodes] at member
    exact List.mem_singleton.1 member
  rw [documents, List.length_singleton] at enough
  omega

/-- The first actor has acted on both documents and is not done, since the second one completed one
of them in between. -/
theorem forgotten_after_completion :
    ∃ w deeds a n, Workflow.build office .empty (some (pairSigning.take 1))
        (some [.int 10, .int 11]) = .ok w ∧
      w.automaton.play [cosign 1 [10], cosign 2 [10], cosign 1 [11]] = .ok (deeds, a) ∧
      a.nodes[0]? = some n ∧ n.quota = .int 2 ∧
      actorsOn (log deeds) 0 (.int 10) = [.int 1, .int 2] ∧
      actorsOn (log deeds) 0 (.int 11) = [.int 1] ∧ n.doneActors = [] ∧
      ¬ w.automaton.HasQuotaLaw := by
  have reached : ∃ w deeds a s n, Workflow.build office .empty (some (pairSigning.take 1))
        (some [.int 10, .int 11]) = .ok w ∧
      w.automaton.play [cosign 1 [10], cosign 2 [10], cosign 1 [11]] = .ok (deeds, a) ∧
      w.automaton.nodes[0]? = some s ∧ a.nodes[0]? = some n ∧ n.quota = .int 2 ∧
      actorsOn (log deeds) 0 (.int 10) = [.int 1, .int 2] ∧
      actorsOn (log deeds) 0 (.int 11) = [.int 1] ∧ n.doneActors = [] ∧
      s.actors.contains (.int 1) = true ∧
      s.quota.isReachedBy (s.total (actorsOn (log deeds) 0) (.int 1)) = true :=
    ⟨_, _, _, _, _, rfl, rfl, rfl, rfl, rfl, rfl, rfl, rfl, rfl, rfl⟩
  obtain ⟨w, deeds, a, s, n, built, played, emitted, here, quota, both, one, nobody, known,
    enough⟩ := reached
  refine ⟨w, deeds, a, n, built, played, here, quota, both, one, nobody, fun law => ?_⟩
  have done := (law deeds a (run_of_play played) 0 s n emitted here _ known).2 enough
  rw [nobody] at done
  contradiction

end SignatureRouting
