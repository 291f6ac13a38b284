import SignatureRouting.Proofs.Acceptance
import SignatureRouting.Proofs.Progress

/-!
Runs of accepted actions and the log of a run: one event for every different document of every
accepted action, at the node it landed on. Whatever the order and the batches of the actions, every
node of the automaton follows from the node it was at the start by what the log says of it.
-/
namespace SignatureRouting
open Value

structure Deed where
  action : Action
  outcome : Transition

structure Event where
  node : Nat
  role : Role
  actor : Value
  document : Value

namespace Deed

def events (d : Deed) : List Event :=
  d.outcome.requested.map fun document =>
    ⟨d.outcome.landing, d.outcome.node.role, d.action.actor, document⟩

end Deed

def log (deeds : List Deed) : List Event := deeds.flatMap Deed.events

def actorsOn (events : List Event) (k : Nat) (document : Value) : List Value :=
  (events.filter fun e => e.node == k && e.document == document).map (·.actor)

inductive Run (start : Automaton) : List Deed → Automaton → Prop where
  | none : Run start [] start
  | act {deeds : List Deed} {a : Automaton} {x : Action} {t : Transition}
      (before : Run start deeds a) (accepted : a.transition x = .ok t) :
      Run start (deeds ++ [⟨x, t⟩]) t.result

theorem Run.append {a b c : Automaton} {deeds more : List Deed} (first : Run a deeds b)
    (second : Run b more c) : Run a (deeds ++ more) c := by
  induction second with
  | none => rwa [List.append_nil]
  | act before accepted ih =>
    rw [← List.append_assoc]
    exact Run.act ih accepted

theorem Run.at_deed {start a : Automaton} {front back : List Deed} {deed : Deed}
    (run : Run start (front ++ deed :: back) a) :
    ∃ b, Run start front b ∧ b.transition deed.action = .ok deed.outcome := by
  generalize parts : front ++ deed :: back = deeds at run
  induction run generalizing back with
  | none => simp at parts
  | @act deeds b x t before accepted ih =>
    rcases List.eq_nil_or_concat back with rfl | ⟨earlier, last, rfl⟩
    · obtain ⟨rfl, same⟩ := List.append_inj' parts rfl
      obtain rfl := List.singleton_inj.1 same
      exact ⟨b, before, accepted⟩
    · rw [List.concat_eq_append, ← List.cons_append, ← List.append_assoc] at parts
      exact ih (List.append_inj' parts rfl).1

def Automaton.play (a : Automaton) : List Action → Except ActionError (List Deed × Automaton)
  | [] => .ok ([], a)
  | x :: rest => do
    let t ← a.transition x
    let (deeds, last) ← t.result.play rest
    return (⟨x, t⟩ :: deeds, last)

theorem run_of_play {a b : Automaton} {actions : List Action} {deeds : List Deed}
    (played : a.play actions = .ok (deeds, b)) : Run a deeds b := by
  induction actions generalizing a deeds with
  | nil =>
    obtain ⟨rfl, rfl⟩ := Prod.mk.inj (Except.ok.inj played)
    exact Run.none
  | cons x rest ih =>
    cases accepted : a.transition x with
    | error e => simp [Automaton.play, accepted, bind, Except.bind] at played
    | ok t =>
      cases later : t.result.play rest with
      | error e => simp [Automaton.play, accepted, later, bind, Except.bind] at played
      | ok p =>
        simp only [Automaton.play, accepted, later, bind, Except.bind, pure, Except.pure,
          Except.ok.injEq, Prod.mk.injEq] at played
        obtain ⟨rfl, rfl⟩ := played
        exact (Run.act Run.none accepted).append (ih later)

theorem log_append_one (deeds : List Deed) (d : Deed) :
    log (deeds ++ [d]) = log deeds ++ d.events := by
  simp [log]

theorem actorsOn_append (before after : List Event) (k : Nat) (document : Value) :
    actorsOn (before ++ after) k document =
      actorsOn before k document ++ actorsOn after k document := by
  simp [actorsOn]

theorem mem_actorsOn {events : List Event} {e : Event} (member : e ∈ events) {k : Nat}
    (here : e.node = k) {document : Value} (same : (e.document == document) = true) :
    e.actor ∈ actorsOn events k document := by
  refine List.mem_map_of_mem (List.mem_filter.2 ⟨member, ?_⟩)
  rw [here, beq_self_eq_true, same, Bool.and_true]

theorem exists_event_of_mem {events : List Event} {k : Nat} {document v : Value}
    (member : v ∈ actorsOn events k document) :
    ∃ e ∈ events, e.node = k ∧ (e.document == document) = true ∧ e.actor = v := by
  obtain ⟨e, among, actor⟩ := List.mem_map.1 member
  obtain ⟨logged, matching⟩ := List.mem_filter.1 among
  rw [Bool.and_eq_true, beq_iff_eq] at matching
  exact ⟨e, logged, matching.1, matching.2, actor⟩

theorem filter_same_of_distinct {l : List Value} (distinct : Distinct l) (d : Value) :
    (l.filter (· == d)).length = if l.contains d then 1 else 0 := by
  induction l with
  | nil => rfl
  | cons v rest ih =>
    obtain ⟨absent, apart⟩ := distinct_cons.1 distinct
    rw [List.filter_cons, List.contains_cons, same_comm d v]
    cases same : v == d with
    | true =>
      have later : rest.contains d = false := (contains_congr rest same).symm.trans absent
      rw [if_pos rfl, List.length_cons, ih apart, later]
      rfl
    | false => rw [if_neg Bool.false_ne_true, ih apart, Bool.false_or]

theorem actorsOn_events {x : Action} {t : Transition} (distinct : Distinct t.requested) (k : Nat)
    (document : Value) :
    actorsOn (Deed.events ⟨x, t⟩) k document =
      if t.landing = k ∧ t.requested.contains document = true then [x.actor] else [] := by
  rw [actorsOn, Deed.events, List.filter_map, List.map_map]
  by_cases here : t.landing = k
  · have count := filter_same_of_distinct distinct document
    have constant : ∀ l : List Value,
        l.map ((fun e : Event => e.actor) ∘ fun d => ⟨t.landing, t.node.role, x.actor, d⟩) =
          List.replicate l.length x.actor := by
      exact fun l => List.map_const
    have alike : t.requested.filter ((fun e : Event => e.node == k && e.document == document) ∘
        fun d => ⟨t.landing, t.node.role, x.actor, d⟩) = t.requested.filter (· == document) := by
      refine List.filter_congr fun d _ => ?_
      simp [here]
    rw [constant, alike, count]
    cases t.requested.contains document <;> simp [here]
  · have nothing : t.requested.filter ((fun e : Event => e.node == k && e.document == document) ∘
        fun d => ⟨t.landing, t.node.role, x.actor, d⟩) = [] := by
      rw [List.filter_eq_nil_iff]
      intro d _
      simp [here]
    rw [nothing, if_neg (fun h => here h.1)]
    rfl

def AllFollow (start a : Automaton) (acted : Nat → Value → List Value) : Prop :=
  a.nodes.length = start.nodes.length ∧ ∀ (k : Nat) (s n : Node), start.nodes[k]? = some s →
    a.nodes[k]? = some n → Node.Follows s n (acted k)

theorem AllFollow.node_of_start {start a : Automaton} {acted : Nat → Value → List Value}
    (all : AllFollow start a acted) {k : Nat} {s : Node} (emitted : start.nodes[k]? = some s) :
    ∃ n, a.nodes[k]? = some n ∧ Node.Follows s n (acted k) := by
  have inside : k < a.nodes.length := by
    rw [all.1]
    exact (List.getElem?_eq_some_iff.1 emitted).1
  exact ⟨a.nodes[k], List.getElem?_eq_getElem inside,
    all.2 k s _ emitted (List.getElem?_eq_getElem inside)⟩

theorem AllFollow.start_of_node {start a : Automaton} {acted : Nat → Value → List Value}
    (all : AllFollow start a acted) {k : Nat} {n : Node} (here : a.nodes[k]? = some n) :
    ∃ s, start.nodes[k]? = some s ∧ Node.Follows s n (acted k) := by
  have inside : k < start.nodes.length := by
    rw [← all.1]
    exact (List.getElem?_eq_some_iff.1 here).1
  exact ⟨start.nodes[k], List.getElem?_eq_getElem inside,
    all.2 k _ n (List.getElem?_eq_getElem inside) here⟩

def AllFresh (a : Automaton) : Prop := ∀ n ∈ a.nodes, n.Fresh

theorem AllFresh.at {a : Automaton} (fresh : AllFresh a) {k : Nat} {n : Node}
    (here : a.nodes[k]? = some n) : n.Fresh := fresh n (List.mem_of_getElem? here)

theorem allFollow_start {start : Automaton} (fresh : AllFresh start) :
    AllFollow start start fun _ _ => [] := by
  refine ⟨rfl, fun k s n emitted here => ?_⟩
  obtain rfl := Option.some.inj (emitted.symm.trans here)
  exact Node.follows_of_fresh (fresh.at emitted)

theorem AllFollow.transition {start a : Automaton} {acted : Nat → Value → List Value}
    (fresh : AllFresh start) (all : AllFollow start a acted) {x : Action} {t : Transition}
    (accepted : a.transition x = .ok t) :
    AllFollow start t.result fun k =>
      if t.landing = k then Node.actedAfter (acted k) x.actor t.requested else acted k := by
  obtain ⟨n, here, became, eligible, _, clear⟩ := Automaton.of_transition accepted
  refine ⟨(Automaton.index_le_of_transition accepted).1.trans all.1, fun k s m emitted found => ?_⟩
  rw [Automaton.getElem?_result accepted] at found
  by_cases landed : t.landing = k
  · subst landed
    rw [if_pos rfl, Option.some.injEq] at found
    obtain rfl := found
    have follows := all.2 t.landing s n emitted here
    simp only [if_true, became]
    exact follows.record_follows (fresh.at emitted).documents_distinct eligible clear
  · rw [if_neg landed] at found
    simp only [if_neg landed]
    exact all.2 k s m emitted found

theorem distinct_requested {a : Automaton} {x : Action} {t : Transition}
    (accepted : a.transition x = .ok t) : Distinct t.requested := by
  obtain ⟨_, _, _, _, different, _⟩ := Automaton.of_transition accepted
  rw [(unique?_eq_some different).1]
  exact distinct_unique _

theorem actorsOn_deed {a : Automaton} {x : Action} {t : Transition}
    (accepted : a.transition x = .ok t) (deeds : List Deed) (k : Nat) :
    actorsOn (log (deeds ++ [⟨x, t⟩])) k =
      if t.landing = k then Node.actedAfter (actorsOn (log deeds) k) x.actor t.requested
      else actorsOn (log deeds) k := by
  have distinct := distinct_requested accepted
  funext d
  rw [log_append_one, actorsOn_append, actorsOn_events distinct]
  by_cases landed : t.landing = k
  · unfold Node.actedAfter
    cases asked : t.requested.contains d <;> simp [landed, asked]
  · simp [landed]

/-- After a run every node is what the log makes of the node it started as. -/
theorem Run.follows {start : Automaton} (fresh : AllFresh start) {deeds : List Deed}
    {a : Automaton} (run : Run start deeds a) : AllFollow start a (actorsOn (log deeds)) := by
  induction run with
  | none => exact allFollow_start fresh
  | @act deeds a x t before accepted ih =>
    have grown := ih.transition fresh accepted
    refine ⟨grown.1, fun k s n emitted here => ?_⟩
    rw [actorsOn_deed accepted]
    exact grown.2 k s n emitted here

theorem Run.event {start : Automaton} (fresh : AllFresh start) {deeds : List Deed} {a : Automaton}
    (run : Run start deeds a) {e : Event} (member : e ∈ log deeds) :
    ∃ s, start.nodes[e.node]? = some s ∧ e.role = s.role ∧ s.actors.contains e.actor = true ∧
      s.documents.contains e.document = true := by
  induction run with
  | none => simp [log] at member
  | @act deeds a x t before accepted ih =>
    rw [log_append_one] at member
    rcases List.mem_append.1 member with old | new
    · exact ih old
    · have all := before.follows fresh
      obtain ⟨n, here, became, eligible, _, clear⟩ := Automaton.of_transition accepted
      obtain ⟨s, emitted, follows⟩ := all.start_of_node here
      obtain ⟨d, asked, rfl⟩ := List.mem_map.1 new
      have distinct := (fresh.at emitted).documents_distinct
      have role : t.node.role = s.role := became ▸ follows.role
      exact ⟨s, emitted, role, (follows.roster.of_eligible eligible).2.1,
        ((follows.obstacle?_eq_none_iff distinct).1 (clear d asked)).1⟩

end SignatureRouting
