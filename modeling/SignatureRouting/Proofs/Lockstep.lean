import Mathlib.Algebra.GroupWithZero.Nat
import SignatureRouting.Proofs.Ledger

/-!
Runs in which everybody acts on all that is asked of them. Then all documents go through a node
together: each has the same actors as the others, so all are complete at once, and the node has
one actor more than before after every action. As many actions as the quotas add up to therefore end
the workflow, whoever takes part in them.
-/
namespace SignatureRouting
open Value

structure PendingWork.IsTakenBy (work : PendingWork) (x : Action) : Prop where
  tag : x.tag = work.tag
  listed : ∃ item ∈ work.items, item.2.contains x.actor = true
  documents : ∀ d, x.documents.contains d = true ↔
    ∃ item ∈ work.items, (item.1 == d) = true ∧ item.2.contains x.actor = true

def PendingWork.batch (work : PendingWork) (actor : Value) : Action :=
  ⟨actor, work.tag, (work.items.filter fun i => i.2.contains actor).map (·.1)⟩

theorem PendingWork.isTakenBy_batch {work : PendingWork} {item : Value × List Value}
    (member : item ∈ work.items) {v : Value} (listed : v ∈ item.2) :
    work.IsTakenBy (work.batch v) := by
  refine ⟨rfl, ⟨item, member, contains_of_mem listed⟩, fun d => ⟨fun asked => ?_, ?_⟩⟩
  · obtain ⟨e, found, same⟩ := exists_same_of_contains asked
    obtain ⟨i, kept, rfl⟩ := List.mem_map.1 found
    obtain ⟨among, lists⟩ := List.mem_filter.1 kept
    exact ⟨i, among, same_symm same, lists⟩
  · rintro ⟨i, among, same, lists⟩
    have kept : i ∈ work.items.filter fun i => i.2.contains v := List.mem_filter.2 ⟨among, lists⟩
    exact (contains_congr _ (same_symm same)).trans
      (contains_of_mem (List.mem_map_of_mem (f := (·.1)) kept))

def Automaton.IsFullBatch (a : Automaton) (x : Action) : Prop :=
  ∃ work, a.pendingWork? = some work ∧ work.IsTakenBy x

/-- So many accepted actions, each on all that is pending for its actor. -/
inductive FullRun (start : Automaton) : Nat → Automaton → Prop where
  | none : FullRun start 0 start
  | act {count : Nat} {a b : Automaton} {x : Action} (before : FullRun start count a)
      (full : a.IsFullBatch x) (accepted : a.apply x = .ok b) : FullRun start (count + 1) b

namespace Node

def jointly (start : Node) (acted : List Value) (d : Value) : List Value :=
  if start.documents.contains d then acted else []

/-- Some actors have acted at a node, each on all of its documents, and none is complete. -/
structure Level (start n : Node) (acted : List Value) : Prop where
  follows : Follows start n (start.jointly acted)
  nothing_done : n.doneDocuments = []
  short : start.quota.isReachedBy acted.length = false

theorem level_of_fresh {start : Node} (fresh : start.Fresh) : Level start start [] := by
  have nobody : start.jointly [] = fun _ => [] := by
    funext d
    rw [jointly, ite_self]
  exact ⟨nobody ▸ follows_of_fresh fresh, fresh.nothing_done, not_reached_by_zero fresh.least⟩

theorem jointly_of_mem {start : Node} {acted : List Value} {d : Value}
    (member : d ∈ start.documents) : start.jointly acted d = acted := by
  rw [jointly, if_pos (contains_of_mem member)]

theorem jointly_after {start : Node} {documents : List Value}
    (all : ∀ d, documents.contains d = start.documents.contains d) (acted : List Value)
    (actor : Value) :
    actedAfter (start.jointly acted) actor (unique documents) =
      start.jointly (acted ++ [actor]) := by
  funext d
  rw [actedAfter, contains_unique, all, jointly, jointly]
  split <;> rfl

section Level
variable {start n : Node} {acted : List Value} (level : Level start n acted)
include level

theorem Level.opened : n.opened = start.documents.map fun d => ⟨d, acted⟩ := by
  rw [level.follows.progress.opened, List.filter_eq_self.2]
  · exact List.map_congr_left fun d member => by rw [jointly_of_mem member]
  · intro d member
    rw [jointly_of_mem member, level.short]
    rfl

theorem Level.opened_ne_nil (fresh : start.Fresh) : n.opened ≠ [] := by
  rw [level.opened]
  exact fun empty => fresh.something (List.map_eq_nil_iff.1 empty)

theorem Level.acted_of_done (fresh : start.Fresh) {v : Value}
    (done : n.doneActors.contains v = true) : acted.contains v = true := by
  obtain ⟨d, listed, found⟩ := level.follows.roster.exists_acted fresh.least done
  rwa [jointly_of_mem listed] at found

theorem Level.isEligible (fresh : start.Fresh) {v : Value} (known : start.actors.contains v = true)
    (idle : acted.contains v = false) : n.isEligible v = true := by
  rw [level.follows.roster.isEligible_eq, known, Bool.true_and, Bool.not_eq_true',
    ← Bool.not_eq_true]
  intro done
  rw [level.acted_of_done fresh done] at idle
  contradiction

theorem Level.exists_idle (fresh : start.Fresh) {q : Nat} (needs : start.quota.Needs q) :
    ∃ v ∈ n.actors, acted.contains v = false := by
  obtain ⟨_, fits⟩ := needs.between fresh.least fresh.most
  have few := needs.lt_of_unreached level.short
  obtain ⟨v, member, idle⟩ : ∃ v ∈ start.actors, acted.contains v = false := by
    by_contra everybody
    simp only [not_exists, not_and, Bool.not_eq_false] at everybody
    have most := fresh.actors_distinct.length_le everybody
    omega
  have eligible := level.isEligible fresh (contains_of_mem member) idle
  obtain ⟨w, listed, same⟩ := exists_same_of_contains (level.follows.roster.of_eligible eligible).1
  exact ⟨w, listed, contains_congr acted same ▸ idle⟩

theorem Level.targets (fresh : start.Fresh) {q : Nat} (needs : start.quota.Needs q) :
    n.actors.filter (fun v => !acted.contains v) ≠ [] ∧
      n.targets = start.documents.map fun d => (d, n.actors.filter fun v => !acted.contains v) := by
  obtain ⟨v, listed, idle⟩ := level.exists_idle fresh needs
  have some : n.actors.filter (fun v => !acted.contains v) ≠ [] :=
    List.ne_nil_of_mem (List.mem_filter.2 ⟨listed, by rw [idle]; rfl⟩)
  refine ⟨some, ?_⟩
  rw [Node.targets, level.opened, List.map_map, List.filter_eq_self.2]
  · rfl
  · intro t member
    obtain ⟨d, _, rfl⟩ := List.mem_map.1 member
    simpa using some

theorem Level.targets_ne_nil (fresh : start.Fresh) {q : Nat} (needs : start.quota.Needs q) :
    n.targets ≠ [] := by
  rw [(level.targets fresh needs).2]
  exact fun empty => fresh.something (List.map_eq_nil_iff.1 empty)

theorem Level.unfinished (fresh : start.Fresh) {q : Nat} (needs : start.quota.Needs q) :
    n.isFinished = false := by
  obtain ⟨v, listed, idle⟩ := level.exists_idle fresh needs
  rw [isFinished, Bool.or_eq_false_iff, List.isEmpty_eq_false_iff, List.all_eq_false]
  refine ⟨level.opened_ne_nil fresh, v, listed, fun done => ?_⟩
  rw [level.acted_of_done fresh done] at idle
  contradiction

theorem Level.of_isTakenBy (fresh : start.Fresh) {q : Nat} (needs : start.quota.Needs q)
    {tag : Value} {x : Action} (taken : PendingWork.IsTakenBy ⟨tag, n.targets⟩ x) :
    n.isEligible x.actor = true ∧ acted.contains x.actor = false ∧
      ∀ d, x.documents.contains d = start.documents.contains d := by
  have alike : ∀ w ∈ n.actors, (x.actor == w) = true →
      (!acted.contains w) = !acted.contains x.actor := by
    intro w _ same
    rw [contains_congr acted same]
  have idle : (n.actors.filter fun v => !acted.contains v).contains x.actor = true := by
    obtain ⟨item, member, listed⟩ := taken.listed
    rw [(level.targets fresh needs).2] at member
    obtain ⟨d, _, rfl⟩ := List.mem_map.1 member
    exact listed
  have own := idle
  rw [contains_filter _ alike, Bool.and_eq_true, Bool.not_eq_true'] at own
  obtain ⟨w, member, same⟩ := exists_same_of_contains own.1
  have known : start.actors.contains x.actor = true :=
    (contains_congr _ same).trans (contains_of_mem (level.follows.roster.remaining.subset member))
  refine ⟨level.isEligible fresh known own.2, own.2, fun d => ?_⟩
  rw [Bool.eq_iff_iff, taken.documents, (level.targets fresh needs).2]
  constructor
  · rintro ⟨item, member, same, _⟩
    obtain ⟨e, listed, rfl⟩ := List.mem_map.1 member
    exact (contains_congr _ (same_symm same)).trans (contains_of_mem listed)
  · intro found
    obtain ⟨e, listed, same⟩ := exists_same_of_contains found
    exact ⟨_, List.mem_map_of_mem listed, same_symm same, idle⟩

theorem Level.record_doneDocuments (fresh : start.Fresh) {documents : List Value}
    (all : ∀ d, documents.contains d = start.documents.contains d) (actor : Value) :
    (n.record actor (unique documents)).doneDocuments =
      start.documents.filter fun _ => start.quota.isReachedBy (acted ++ [actor]).length := by
  have unopened := level.follows.progress.documents_distinct fresh.documents_distinct
  have touched : n.opened.map (touch actor (unique documents)) =
      start.documents.map fun d => ⟨d, acted ++ [actor]⟩ := by
    rw [level.opened, List.map_map]
    refine List.map_congr_left fun d member => ?_
    have asked : (unique documents).contains d = true := by
      rw [contains_unique, all]
      exact contains_of_mem member
    rw [Function.comp_apply, touch, if_pos asked]
    rfl
  rw [Node.record_doneDocuments unopened, level.nothing_done, List.nil_append, touched,
    List.filter_map, List.map_map]
  simp only [isReachedBy_congr level.follows.quota]
  exact List.map_id _

section Everything
variable (fresh : start.Fresh) {actor : Value} (eligible : n.isEligible actor = true)
  (idle : acted.contains actor = false) {documents : List Value}
  (all : ∀ d, documents.contains d = start.documents.contains d)
include fresh eligible idle all

theorem Level.accept :
    n.accept ⟨actor, n.tag, documents⟩ = .ok (unique documents) ∧
      ∀ d ∈ unique documents, n.obstacle? actor d = none := by
  have clear : ∀ d ∈ unique documents, n.obstacle? actor d = none := by
    intro d member
    have asked := contains_of_mem member
    rw [contains_unique, all] at asked
    refine (level.follows.obstacle?_eq_none_iff fresh.documents_distinct).2 ⟨asked, ?_⟩
    rw [jointly, if_pos asked]
    exact ⟨level.short, idle⟩
  refine ⟨accept_eq_ok_iff.2 ⟨?_, eligible, ?_, ?_, clear⟩, clear⟩
  · obtain ⟨word, tag⟩ := fresh.tag
    rw [level.follows.tag, tag, equals_of_defined rfl]
    exact same_refl _
  · have identifiers : documents.all Value.isIdentifier = true := by
      refine List.all_eq_true.2 fun d member => ?_
      have asked := contains_of_mem member
      rw [all] at asked
      obtain ⟨e, listed, same⟩ := exists_same_of_contains asked
      rw [isIdentifier_congr same]
      exact fresh.identifiers e listed
    rw [unique?, if_pos identifiers]
  · rw [isNumber_congr level.follows.quota]
    exact fresh.countable

theorem Level.record_follows :
    Follows start (n.record actor (unique documents)) (start.jointly (acted ++ [actor])) := by
  have clear := (level.accept fresh eligible idle all).2
  have follows := level.follows.record_follows fresh.documents_distinct eligible clear
  rwa [jointly_after all] at follows

theorem Level.record {q : Nat} (needs : start.quota.Needs q) (room : acted.length + 1 < q) :
    Level start (n.record actor (unique documents)) (acted ++ [actor]) := by
  have short : start.quota.isReachedBy (acted ++ [actor]).length = false := by
    rw [List.length_append, List.length_singleton]
    exact needs.unreached room
  refine ⟨level.record_follows fresh eligible idle all, ?_, short⟩
  rw [level.record_doneDocuments fresh all, short]
  exact List.filter_false _

theorem Level.record_last {q : Nat} (needs : start.quota.Needs q) (last : acted.length + 1 = q) :
    (n.record actor (unique documents)).opened = [] ∧
      (n.record actor (unique documents)).doneDocuments = start.documents := by
  have full : start.quota.isReachedBy (acted ++ [actor]).length = true := by
    rw [needs, List.length_append, List.length_singleton, last, decide_eq_true (Nat.le_refl q)]
  constructor
  · rw [(level.record_follows fresh eligible idle all).progress.opened, List.map_eq_nil_iff,
      List.filter_eq_nil_iff]
    intro d member
    rw [jointly_of_mem member, full]
    exact Bool.false_ne_true
  · rw [level.record_doneDocuments fresh all, full]
    exact List.filter_true _

end Everything

end Level
end Node

theorem sum_take_succ {quotas : List Nat} {k q : Nat} (here : quotas[k]? = some q) :
    (quotas.take (k + 1)).sum = (quotas.take k).sum + q := by
  rw [List.take_add_one, here, List.sum_append]
  rfl

def Automaton.Quotas (start : Automaton) (quotas : List Nat) : Prop :=
  List.Forall₂ (fun (n : Node) (q : Nat) => (n.quota == .int q) = true) start.nodes quotas

theorem Automaton.Quotas.at {start : Automaton} {quotas : List Nat}
    (counted : start.Quotas quotas) {k : Nat} {s : Node} (emitted : start.nodes[k]? = some s) :
    ∃ q, quotas[k]? = some q ∧ s.quota.Needs q := by
  obtain ⟨inside, rfl⟩ := List.getElem?_eq_some_iff.1 emitted
  have among : k < quotas.length := counted.length_eq ▸ inside
  exact ⟨quotas[k], List.getElem?_eq_getElem among, needs_of_same_int (counted.get inside among)⟩

/-- The nodes before the cursor are complete, those after it untouched, and at the cursor some
actors have acted on everything. -/
structure Lockstep (start : Automaton) (quotas : List Nat) (count : Nat) (acted : List Value)
    (a : Automaton) : Prop where
  size : a.nodes.length = start.nodes.length
  inside : a.index ≤ start.nodes.length
  total : count = (quotas.take a.index).sum + acted.length
  behind : ∀ {k : Nat} {s n : Node}, k < a.index → start.nodes[k]? = some s → a.nodes[k]? = some n →
    n.opened = [] ∧ n.doneDocuments = s.documents
  current : ∀ {s n : Node}, start.nodes[a.index]? = some s → a.nodes[a.index]? = some n →
    Node.Level s n acted
  past : a.index = start.nodes.length → acted = []
  ahead : ∀ {k : Nat}, a.index < k → a.nodes[k]? = start.nodes[k]?

theorem lockstep_start {start : Automaton} (fresh : AllFresh start) (quotas : List Nat)
    (first : start.index = 0) : Lockstep start quotas 0 [] start where
  size := rfl
  inside := first ▸ Nat.zero_le _
  total := by rw [first]; rfl
  behind before := absurd before (by omega)
  current emitted here := by
    obtain rfl := Option.some.inj (emitted.symm.trans here)
    exact Node.level_of_fresh (fresh.at emitted)
  past _ := rfl
  ahead _ := rfl

section Lockstep
variable {start : Automaton} {quotas : List Nat} {count : Nat} {acted : List Value}
  {a : Automaton} (lockstep : Lockstep start quotas count acted a)
include lockstep

theorem Lockstep.stays {s m : Node} {actor : Value} (emitted : start.nodes[a.index]? = some s)
    (level : Node.Level s m (acted ++ [actor])) :
    Lockstep start quotas (count + 1) (acted ++ [actor]) ⟨a.nodes.set a.index m, a.index⟩ := by
  have inside : a.index < start.nodes.length := (List.getElem?_eq_some_iff.1 emitted).1
  constructor
  case size => rw [List.length_set, lockstep.size]
  case inside => exact lockstep.inside
  case total => rw [lockstep.total, List.length_append, List.length_singleton, Nat.add_assoc]
  case behind =>
    intro k t n before at_start found
    rw [List.getElem?_set_ne (Nat.ne_of_gt before)] at found
    exact lockstep.behind before at_start found
  case current =>
    intro t n at_start found
    rw [List.getElem?_set_self (lockstep.size ▸ inside)] at found
    obtain rfl := Option.some.inj found
    obtain rfl := Option.some.inj (emitted.symm.trans at_start)
    exact level
  case past => exact fun ended => absurd ended (Nat.ne_of_lt inside)
  case ahead =>
    intro k after
    rw [List.getElem?_set_ne (Nat.ne_of_lt after)]
    exact lockstep.ahead after

theorem Lockstep.moves (fresh : AllFresh start) {s m : Node} {q : Nat}
    (emitted : start.nodes[a.index]? = some s) (quota : quotas[a.index]? = some q)
    (last : acted.length + 1 = q) (complete : m.opened = [] ∧ m.doneDocuments = s.documents) :
    Lockstep start quotas (count + 1) [] ⟨a.nodes.set a.index m, a.index + 1⟩ := by
  have inside : a.index < start.nodes.length := (List.getElem?_eq_some_iff.1 emitted).1
  have total := lockstep.total
  constructor
  case size => rw [List.length_set, lockstep.size]
  case inside => exact inside
  case total =>
    rw [sum_take_succ quota, List.length_nil]
    omega
  case behind =>
    intro k t n before at_start found
    by_cases here : k = a.index
    · subst here
      rw [List.getElem?_set_self (lockstep.size ▸ inside)] at found
      obtain rfl := Option.some.inj found
      obtain rfl := Option.some.inj (emitted.symm.trans at_start)
      exact complete
    · rw [List.getElem?_set_ne (Ne.symm here)] at found
      exact lockstep.behind (Nat.lt_of_le_of_ne (Nat.le_of_lt_succ before) here) at_start found
  case current =>
    intro t n at_start found
    rw [List.getElem?_set_ne (Nat.ne_of_lt (Nat.lt_succ_self _)),
      lockstep.ahead (Nat.lt_succ_self _)] at found
    obtain rfl := Option.some.inj (at_start.symm.trans found)
    exact Node.level_of_fresh (fresh.at at_start)
  case past => exact fun _ => rfl
  case ahead =>
    intro k after
    rw [List.getElem?_set_ne (Nat.ne_of_lt (Nat.lt_of_succ_lt after))]
    exact lockstep.ahead (Nat.lt_of_succ_lt after)

theorem Lockstep.node_at_cursor (more : a.index < start.nodes.length) :
    ∃ s n, start.nodes[a.index]? = some s ∧ a.nodes[a.index]? = some n ∧ Node.Level s n acted := by
  have emitted : start.nodes[a.index]? = some start.nodes[a.index] := List.getElem?_eq_getElem more
  have inside : a.index < a.nodes.length := lockstep.size ▸ more
  have here : a.nodes[a.index]? = some a.nodes[a.index] := List.getElem?_eq_getElem inside
  exact ⟨_, _, emitted, here, lockstep.current emitted here⟩

theorem Lockstep.more_of_pending {work : PendingWork} (pending : a.pendingWork? = some work) :
    a.index < start.nodes.length := by
  by_contra ended
  have nowhere : a.current? = none := List.getElem?_eq_none (lockstep.size ▸ Nat.not_lt.1 ended)
  rw [Automaton.pendingWork?, nowhere] at pending
  contradiction

theorem Lockstep.isAtEnd_iff (fresh : AllFresh start) :
    a.isAtEnd = true ↔ a.index = start.nodes.length := by
  constructor
  · intro ended
    by_contra more
    obtain ⟨s, n, emitted, here, level⟩ :=
      lockstep.node_at_cursor (Nat.lt_of_le_of_ne lockstep.inside more)
    have some_open := level.opened_ne_nil (fresh.at emitted)
    rw [← List.isEmpty_eq_false_iff] at some_open
    simp only [Automaton.isAtEnd, Automaton.current?, here, some_open, Bool.and_false,
      Bool.false_eq_true] at ended
  · intro ended
    have nowhere : a.current? = none :=
      List.getElem?_eq_none (Nat.le_of_eq (lockstep.size.trans ended.symm))
    rw [Automaton.isAtEnd, nowhere]

theorem Lockstep.all_done (ended : a.index = start.nodes.length) {documents : List Value}
    (shared : ∀ s ∈ start.nodes, s.documents = documents) :
    ∀ n ∈ a.nodes, n.opened = [] ∧ n.doneDocuments = documents := by
  intro n member
  obtain ⟨k, here⟩ := List.mem_iff_getElem?.1 member
  have inside : k < start.nodes.length := lockstep.size ▸ (List.getElem?_eq_some_iff.1 here).1
  rw [← shared _ (List.getElem_mem inside)]
  exact lockstep.behind (ended ▸ inside) (List.getElem?_eq_getElem inside) here

theorem Lockstep.count_eq_iff (counted : start.Quotas quotas) :
    count ≤ quotas.sum ∧ (count = quotas.sum ↔ a.index = start.nodes.length) := by
  have total := lockstep.total
  by_cases ended : a.index = start.nodes.length
  · have everything : quotas.take a.index = quotas :=
      List.take_of_length_le (Nat.le_of_eq (counted.length_eq.symm.trans ended.symm))
    rw [lockstep.past ended, everything, List.length_nil, Nat.add_zero] at total
    exact ⟨Nat.le_of_eq total, fun _ => ended, fun _ => total⟩
  · obtain ⟨s, n, emitted, _, level⟩ :=
      lockstep.node_at_cursor (Nat.lt_of_le_of_ne lockstep.inside ended)
    obtain ⟨q, quota, needs⟩ := counted.at emitted
    have room := needs.lt_of_unreached level.short
    have before := sum_take_succ quota
    have split := congrArg List.sum (List.take_append_drop (a.index + 1) quotas)
    rw [List.sum_append] at split
    refine ⟨by omega, fun all => ?_, fun end_reached => absurd end_reached ended⟩
    omega

variable (fresh : AllFresh start) (counted : start.Quotas quotas)
include fresh counted

theorem Lockstep.pendingWork? (more : a.index < start.nodes.length) {documents : List Value}
    (shared : ∀ s ∈ start.nodes, s.documents = documents) :
    ∃ tag actors, actors ≠ [] ∧
      a.pendingWork? = some ⟨tag, documents.map fun d => (d, actors)⟩ := by
  obtain ⟨s, n, emitted, here, level⟩ := lockstep.node_at_cursor more
  obtain ⟨q, _, needs⟩ := counted.at emitted
  obtain ⟨somebody, targets⟩ := level.targets (fresh.at emitted) needs
  refine ⟨n.tag, n.actors.filter fun v => !acted.contains v, somebody, ?_⟩
  rw [Automaton.pendingWork?_eq_some (level.targets_ne_nil (fresh.at emitted) needs) here, targets,
    shared s (List.mem_of_getElem? emitted)]

theorem Lockstep.step {x : Action} (full : a.IsFullBatch x) :
    ∃ b acted', a.apply x = .ok b ∧ Lockstep start quotas (count + 1) acted' b := by
  obtain ⟨work, pending, taken⟩ := full
  obtain ⟨s, n, emitted, here, level⟩ := lockstep.node_at_cursor (lockstep.more_of_pending pending)
  obtain ⟨q, quota, needs⟩ := counted.at emitted
  have own := fresh.at emitted
  rw [Automaton.pendingWork?_eq_some (level.targets_ne_nil own needs) here,
    Option.some.injEq] at pending
  subst pending
  obtain ⟨eligible, idle, all⟩ := level.of_isTakenBy own needs taken
  obtain ⟨accepted, _⟩ := level.accept own eligible idle all
  have asked : x = ⟨x.actor, n.tag, x.documents⟩ := by
    rw [← show x.tag = n.tag from taken.tag]
  rw [← asked] at accepted
  have landed := Automaton.landing_of_unfinished here (level.unfinished own needs)
  have applied : a.apply x = .ok (a.advance (n.record x.actor (unique x.documents))) := by
    rw [Automaton.apply,
      Automaton.transition_eq_ok_iff.2 ⟨n, _, landed.symm ▸ here, accepted, rfl⟩]
    rfl
  rw [Automaton.advance, landed] at applied
  by_cases last : acted.length + 1 = q
  · have complete := level.record_last own eligible idle all needs last
    rw [complete.1] at applied
    exact ⟨_, [], applied, lockstep.moves fresh emitted quota last complete⟩
  · have room := needs.lt_of_unreached level.short
    have grown := level.record own eligible idle all needs (by omega)
    have some_open := grown.opened_ne_nil own
    rw [← List.isEmpty_eq_false_iff] at some_open
    rw [some_open] at applied
    exact ⟨_, acted ++ [x.actor], applied, lockstep.stays emitted grown⟩

end Lockstep

theorem FullRun.lockstep {start : Automaton} (fresh : AllFresh start) {quotas : List Nat}
    (counted : start.Quotas quotas) (first : start.index = 0) {count : Nat} {a : Automaton}
    (run : FullRun start count a) : ∃ acted, Lockstep start quotas count acted a := by
  induction run with
  | none => exact ⟨[], lockstep_start fresh quotas first⟩
  | act before full accepted ih =>
    obtain ⟨acted, lockstep⟩ := ih
    obtain ⟨b, acted', applied, next⟩ := lockstep.step fresh counted full
    obtain rfl := Except.ok.inj (applied.symm.trans accepted)
    exact ⟨acted', next⟩

section Built
variable {setting : Setting} {history : History} {steps : Option (List StepItem)}
  {documents : Option (List Value)} {w : Workflow}
  (built : Workflow.build setting history steps documents = .ok w)
  (integral : ∀ item ∈ steps.getD [], item.IsIntegral)
include built integral

theorem exists_quotas_of_build : ∃ quotas, w.automaton.Quotas quotas := by
  have each : ∀ n ∈ w.automaton.nodes, ∃ q : Nat, (n.quota == .int q) = true := by
    intro n member
    obtain ⟨q, same, _⟩ := quota_between built integral member
    exact ⟨q, same⟩
  exact exists_forall₂ each

/-- A run in which everybody acts on everything that is pending never gets stuck, and ends after as
many actions as the quotas of the nodes add up to. -/
theorem full_batches_complete :
    ∃ quotas, w.automaton.Quotas quotas ∧
      ∀ count a, FullRun w.automaton count a →
        (∀ x, a.IsFullBatch x → ∃ b, a.apply x = .ok b) ∧
        (a.index = a.nodes.length ∨ ∃ tag actors, actors ≠ [] ∧
          a.pendingWork? = some ⟨tag, w.documents.map fun d => (d, actors)⟩) ∧
        count ≤ quotas.sum ∧
        (a.isAtEnd = true ↔ count = quotas.sum) ∧
        (count < quotas.sum → ∃ x, a.IsFullBatch x) ∧
        (count = quotas.sum → ∀ n ∈ a.nodes, n.opened = [] ∧ n.doneDocuments = w.documents) := by
  obtain ⟨quotas, counted⟩ := exists_quotas_of_build built integral
  obtain ⟨draft, same, good, sound⟩ := Workflow.draft_of_build built
  have fresh := Workflow.fresh_of_build built
  have shared : ∀ s ∈ w.automaton.nodes, s.documents = w.documents := by
    rw [same]
    exact sound.shared
  refine ⟨quotas, counted, fun count a run => ?_⟩
  obtain ⟨acted, lockstep⟩ := run.lockstep fresh counted (by rw [same])
  obtain ⟨most, total⟩ := lockstep.count_eq_iff counted
  have pending : a.index = a.nodes.length ∨ ∃ tag actors, actors ≠ [] ∧
      a.pendingWork? = some ⟨tag, w.documents.map fun d => (d, actors)⟩ := by
    rcases Nat.lt_or_eq_of_le lockstep.inside with more | ended
    · exact Or.inr (lockstep.pendingWork? fresh counted more shared)
    · exact Or.inl (ended.trans lockstep.size.symm)
  refine ⟨fun x full => ?_, pending, most, ?_, fun fewer => ?_, fun all => ?_⟩
  · obtain ⟨b, _, applied, _⟩ := lockstep.step fresh counted full
    exact ⟨b, applied⟩
  · rw [total, lockstep.isAtEnd_iff fresh]
  · have more : a.index < w.automaton.nodes.length :=
      Nat.lt_of_le_of_ne lockstep.inside fun ended => Nat.ne_of_lt fewer (total.2 ended)
    obtain ⟨tag, actors, somebody, work⟩ := lockstep.pendingWork? fresh counted more shared
    obtain ⟨v, listed⟩ := List.exists_mem_of_ne_nil _ somebody
    obtain ⟨d, member⟩ := List.exists_mem_of_ne_nil _ good.some
    exact ⟨_, _, work, PendingWork.isTakenBy_batch (List.mem_map_of_mem member) listed⟩
  · exact lockstep.all_done (total.1 all) shared

end Built

theorem full_batches_complete_after_three :
    ∃ a, FullRun mailing.automaton 3 a ∧
      ∀ n ∈ a.nodes, n.opened = [] ∧ n.doneDocuments = [.int 10, .int 11, .int 12] := by
  obtain ⟨quotas, counted, completes⟩ := full_batches_complete mailing_built signThenSend_integral
  have total : quotas.sum = 3 := by
    cases counted with
    | cons two rest =>
      cases rest with
      | cons one rest =>
        cases rest
        have signers := (int_same_int 2 _).1 two
        have senders := (int_same_int 1 _).1 one
        simp only [List.sum_cons, List.sum_nil]
        omega
  have first : FullRun mailing.automaton 1 _ := FullRun.act .none
    ⟨_, rfl, PendingWork.isTakenBy_batch (v := .int 1) (.head _) (.head _)⟩ rfl
  have second : FullRun mailing.automaton 2 _ := FullRun.act first
    ⟨_, rfl, PendingWork.isTakenBy_batch (v := .int 3) (.head _) (.tail _ (.head _))⟩ rfl
  have third : FullRun mailing.automaton 3 _ := FullRun.act second
    ⟨_, rfl, PendingWork.isTakenBy_batch (v := .int 4) (.head _) (.head _)⟩ rfl
  obtain ⟨_, _, _, _, _, everything⟩ := completes 3 _ third
  exact ⟨_, third, everything total.symm⟩

end SignatureRouting
