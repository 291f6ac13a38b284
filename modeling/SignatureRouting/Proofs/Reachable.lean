import SignatureRouting.Automaton
import SignatureRouting.Proofs.Ledger
import SignatureRouting.Proofs.Reload

/-!
States that a built automaton can be brought into: by accepted actions, by going on with either part
of a split, and by storing and loading. A part of a split begins some nodes after the automaton it
was cut from, so a state is reached together with an offset. At every node of such a state the
actors and the documents of the emitted node are divided between those that are done and those that
are not, and no one has done more than the quota asks for.
-/
namespace SignatureRouting
open Value

/-- The states to be reached from an automaton, each with the number of nodes cut off before it. -/
inductive Reachable (start : Automaton) : Nat → Automaton → Prop where
  | start : Reachable start 0 start
  | act {k : Nat} {a : Automaton} {x : Action} {t : Transition} (before : Reachable start k a)
      (accepted : a.transition x = .ok t) : Reachable start k t.result
  | previous {k : Nat} {a : Automaton} {s : Split} (before : Reachable start k a)
      (split : a.split? = some s) : Reachable start k s.previous
  | next {k : Nat} {a : Automaton} {s : Split} (before : Reachable start k a)
      (split : a.split? = some s) : Reachable start (k + s.previous.nodes.length) s.next
  | reload {k : Nat} {a b : Automaton} (before : Reachable start k a)
      (loaded : Automaton.ofValue a.toValue = .ok b) : Reachable start k b

theorem Reachable.run {start a b : Automaton} {k : Nat} {deeds : List Deed}
    (before : Reachable start k a) (run : Run a deeds b) : Reachable start k b := by
  induction run with
  | none => exact before
  | act _ accepted ih => exact Reachable.act ih accepted

namespace Node

structure Continues (emitted n : Node) : Prop where
  step : n.step = emitted.step
  role : n.role = emitted.role
  tag : n.tag = emitted.tag
  quota : (n.quota == emitted.quota) = true
  actors_ordered : n.actors.Sublist emitted.actors
  actors_distinct : Distinct (n.actors ++ n.doneActors)
  actors_exact : ∀ v, (n.actors ++ n.doneActors).contains v = emitted.actors.contains v
  documents_ordered : n.documents.Sublist emitted.documents
  documents_distinct : Distinct (n.documents ++ n.doneDocuments)
  documents_exact : (n.documents ++ n.doneDocuments).Perm emitted.documents
  aligned : n.progress.length = n.documents.length
  entry_distinct : ∀ acted ∈ n.progress, Distinct acted
  entry_known : ∀ acted ∈ n.progress, ∀ v ∈ acted, emitted.actors.contains v = true
  entry_short : ∀ acted ∈ n.progress, (Value.int acted.length).lt n.quota = true
  actor_short : ∀ v ∈ n.actors,
    (Value.int (n.progress.countP (·.contains v))).lt n.quota = true

section Follows
variable {start n : Node} {acted : Value → List Value} (h : Follows start n acted)
  (fresh : start.Fresh)
include h

theorem Follows.with_quota {quota : Value} (same : (n.quota == quota) = true) :
    Follows start { n with quota := quota } acted :=
  ⟨h.step, h.role, h.tag, same_trans (same_symm same) h.quota,
    ⟨h.progress.alike, h.progress.opened, h.progress.done, h.progress.distinct, h.progress.members,
      h.progress.within, h.progress.unfilled⟩,
    ⟨h.roster.remaining, h.roster.known, h.roster.done_known, h.roster.done_distinct,
      h.roster.apart, h.roster.below, h.roster.earned⟩⟩

include fresh

theorem Follows.isStorable (integral : start.quota.IsIntegral) : n.IsStorable := by
  obtain ⟨q, is_q⟩ := integral
  refine ⟨h.step ▸ fresh.step, h.tag ▸ fresh.tag, ⟨q, same_trans h.quota is_q⟩, ?_⟩
  intro d member
  rw [h.progress.documents_eq] at member
  exact fresh.identifiers d (List.mem_filter.1 member).1

theorem Follows.continues (integral : start.quota.IsIntegral)
    (defined : ∀ v ∈ start.actors, v.isUndefined = false) : Continues start n := by
  obtain ⟨q, is_q⟩ := integral
  have own_q : (n.quota == .int q) = true := same_trans h.quota is_q
  have below_q : ∀ {count : Nat}, start.quota.isReachedBy count = false →
      (Value.int count).lt n.quota = true := by
    intro count unreached
    rw [isReachedBy_of_same_int is_q, decide_eq_false_iff_not] at unreached
    rw [lt_congr_right own_q, int_lt_int, decide_eq_true_eq]
    omega
  have apart : ∀ v ∈ n.actors, n.doneActors.contains v = false := fun v member =>
    h.roster.apart v member (defined v (h.roster.remaining.subset member))
  constructor
  case step => exact h.step
  case role => exact h.role
  case tag => exact h.tag
  case quota => exact h.quota
  case actors_ordered => exact h.roster.remaining
  case actors_distinct =>
    exact distinct_append (fresh.actors_distinct.sublist h.roster.remaining)
      h.roster.done_distinct apart
  case actors_exact => exact h.roster.contains_actors
  case documents_ordered =>
    rw [h.progress.documents_eq]
    exact List.filter_sublist
  case documents_distinct => exact fresh.documents_distinct.perm h.progress.perm_documents
  case documents_exact => exact h.progress.perm_documents
  case aligned => rw [Node.progress, Node.documents, List.length_map, List.length_map]
  case entry_distinct =>
    intro entry member
    obtain ⟨d, rfl, _⟩ := h.progress.of_mem_progress member
    exact h.progress.distinct d
  case entry_known =>
    intro entry member
    obtain ⟨d, rfl, _⟩ := h.progress.of_mem_progress member
    exact h.progress.members d
  case entry_short =>
    intro entry member
    obtain ⟨d, rfl, short⟩ := h.progress.of_mem_progress member
    exact below_q short
  case actor_short =>
    intro v member
    have eligible : n.isEligible v = true := by
      rw [isEligible, contains_of_mem member, apart v member]
      rfl
    have few := h.roster.below v eligible
    rw [Node.progress, List.countP_map]
    exact below_q few

end Follows

end Node

namespace Automaton

structure Keeps (start : Automaton) (offset : Nat) (a : Automaton) : Prop where
  inside : a.index ≤ a.nodes.length
  follows : ∀ {i n}, a.nodes[i]? = some n →
    ∃ s acted, start.nodes[offset + i]? = some s ∧ Node.Follows s n acted

theorem keeps_start {start : Automaton} (fresh : AllFresh start)
    (inside : start.index ≤ start.nodes.length) : Keeps start 0 start := by
  refine ⟨inside, fun {i n} here => ⟨n, fun _ => [], ?_, Node.follows_of_fresh (fresh.at here)⟩⟩
  rw [Nat.zero_add]
  exact here

section Keeps
variable {start a : Automaton} {offset : Nat} (keeps : Keeps start offset a)
include keeps

theorem Keeps.transition (fresh : AllFresh start) {x : Action} {t : Transition}
    (accepted : a.transition x = .ok t) : Keeps start offset t.result := by
  obtain ⟨n, here, became, eligible, _, clear⟩ := of_transition accepted
  obtain ⟨count, inside⟩ := index_le_of_transition accepted
  refine ⟨count ▸ inside, fun {i m} found => ?_⟩
  rw [getElem?_result accepted] at found
  split at found
  · rename_i landed
    obtain rfl := Option.some.inj found
    obtain ⟨s, acted, emitted, follows⟩ := keeps.follows here
    have distinct := (fresh.at emitted).documents_distinct
    rw [landed] at emitted
    exact ⟨s, _, emitted, became ▸ follows.record_follows distinct eligible clear⟩
  · exact keeps.follows found

theorem Keeps.take {k : Nat} (within : k ≤ a.nodes.length) :
    Keeps start offset ⟨a.nodes.take k, k⟩ := by
  refine ⟨?_, fun {i n} here => ?_⟩
  · simp only [List.length_take]
    omega
  · refine keeps.follows (i := i) ?_
    rw [List.getElem?_take] at here
    split at here
    · exact here
    · contradiction

theorem Keeps.drop (k : Nat) : Keeps start (offset + k) ⟨a.nodes.drop k, 0⟩ := by
  refine ⟨Nat.zero_le _, fun {i n} here => ?_⟩
  rw [List.getElem?_drop] at here
  rw [Nat.add_assoc]
  exact keeps.follows here

theorem Keeps.isStorable (fresh : AllFresh start)
    (integral : ∀ s ∈ start.nodes, s.quota.IsIntegral) : ∀ n ∈ a.nodes, n.IsStorable := by
  intro n member
  obtain ⟨i, here⟩ := List.mem_iff_getElem?.1 member
  obtain ⟨s, acted, emitted, follows⟩ := keeps.follows here
  exact follows.isStorable (fresh.at emitted) (integral s (List.mem_of_getElem? emitted))

theorem Keeps.reloaded {b : Automaton} (reloaded : Reloaded a b) : Keeps start offset b := by
  have count := reloaded.nodes.length_eq
  constructor
  · rw [reloaded.index, ← count]
    exact keeps.inside
  · intro i n here
    obtain ⟨inside, rfl⟩ := List.getElem?_eq_some_iff.1 here
    have before : i < a.nodes.length := by omega
    obtain ⟨k, same, alike⟩ := reloaded.nodes.get before inside
    obtain ⟨s, acted, emitted, follows⟩ := keeps.follows (List.getElem?_eq_getElem before)
    refine ⟨s, acted, emitted, ?_⟩
    rw [List.get_eq_getElem] at alike
    rw [alike]
    exact follows.with_quota same

end Keeps

theorem split?_eq_some {a : Automaton} {s : Split} (split : a.split? = some s) :
    ∃ k, k ≤ a.nodes.length ∧ s = a.splitAt k := by
  obtain ⟨k, point, rfl⟩ := Option.map_eq_some_iff.1 split
  obtain ⟨node, here, behind⟩ := splitPoint?_eq_some point
  have inside : a.index < a.nodes.length := (List.getElem?_eq_some_iff.1 here).1
  refine ⟨k, ?_, rfl⟩
  rcases behind with ⟨_, rfl⟩ | ⟨_, rfl⟩ <;> omega

theorem keeps_of_reachable {start : Automaton} (fresh : AllFresh start)
    (integral : ∀ s ∈ start.nodes, s.quota.IsIntegral) (inside : start.index ≤ start.nodes.length)
    {offset : Nat} {a : Automaton} (reachable : Reachable start offset a) :
    Keeps start offset a := by
  induction reachable with
  | start => exact keeps_start fresh inside
  | act before accepted ih => exact ih.transition fresh accepted
  | previous before split ih =>
    obtain ⟨k, within, rfl⟩ := split?_eq_some split
    exact ih.take within
  | next before split ih =>
    obtain ⟨k, within, rfl⟩ := split?_eq_some split
    have cut : (List.take k _).length = k := List.length_take_of_le within
    simp only [splitAt, cut]
    exact ih.drop k
  | reload before loaded ih =>
    obtain ⟨b, read, reloaded⟩ := ofValue_toValue (ih.isStorable fresh integral) ih.inside
    obtain rfl := Except.ok.inj (loaded.symm.trans read)
    exact ih.reloaded reloaded

end Automaton

section Built
variable {setting : Setting} {history : History} {steps : Option (List StepItem)}
  {documents : Option (List Value)} {w : Workflow}
  (built : Workflow.build setting history steps documents = .ok w)
  (integral : ∀ item ∈ steps.getD [], item.IsIntegral)
include built integral

theorem keeps_of_build {offset : Nat} {a : Automaton}
    (reachable : Reachable w.automaton offset a) : Automaton.Keeps w.automaton offset a := by
  refine Automaton.keeps_of_reachable (Workflow.fresh_of_build built)
    (quota_integral built integral) ?_ reachable
  obtain ⟨draft, same, _⟩ := Workflow.draft_of_build built
  rw [same]
  exact Nat.zero_le _

theorem reload_of_reachable {offset : Nat} {a : Automaton}
    (reachable : Reachable w.automaton offset a) :
    ∃ b, Automaton.ofValue a.toValue = .ok b ∧ Reachable w.automaton offset b := by
  have keeps := keeps_of_build built integral reachable
  obtain ⟨b, loaded, _⟩ := Automaton.ofValue_toValue
    (keeps.isStorable (Workflow.fresh_of_build built) (quota_integral built integral)) keeps.inside
  exact ⟨b, loaded, Reachable.reload reachable loaded⟩

theorem reachable_continues (defined : ∀ p ∈ setting.participants, p.2.actor.isUndefined = false)
    {offset : Nat} {a : Automaton} (reachable : Reachable w.automaton offset a) {i : Nat} {n : Node}
    (here : a.nodes[i]? = some n) :
    ∃ emitted, w.automaton.nodes[offset + i]? = some emitted ∧ Node.Continues emitted n := by
  obtain ⟨emitted, acted, first, follows⟩ :=
    (keeps_of_build built integral reachable).follows here
  have member := List.mem_of_getElem? first
  refine ⟨emitted, first, follows.continues ((Workflow.fresh_of_build built).at first)
    (quota_integral built integral emitted member) fun v listed => ?_⟩
  obtain ⟨p, known, rfl⟩ := Workflow.participant_of_build built emitted member v listed
  exact defined p known

end Built

theorem reachable_continues_after_split :
    ∃ n, Reachable mailing.automaton 1 ⟨[n], 0⟩ ∧ n.doneActors = [.int 4] ∧
      n.documents = [.int 10, .int 12] ∧ n.doneDocuments = [.int 11] ∧
      Node.Continues sendNode n := by
  have signed : ∃ deeds a s, mailing.automaton.play [cosign 1 [10, 11], cosign 2 [10, 12],
      cosign 3 [11, 12]] = .ok (deeds, a) ∧ a.split? = some s ∧ s.previous.nodes.length = 1 ∧
      s.next = ⟨[sendNode], 0⟩ := ⟨_, _, _, rfl, rfl, rfl, rfl⟩
  obtain ⟨deeds, a, s, played, split, cut, rest⟩ := signed
  have continued := Reachable.next (Reachable.run Reachable.start (run_of_play played)) split
  rw [cut, rest] at continued
  have sent := Reachable.act (x := ⟨.int 4, .text "to", [.int 11]⟩) continued rfl
  have stored := Reachable.reload sent rfl
  refine ⟨_, stored, rfl, rfl, rfl, ?_⟩
  obtain ⟨emitted, first, continues⟩ := reachable_continues mailing_built signThenSend_integral
    (by decide) stored (i := 0) rfl
  obtain rfl := Option.some.inj first
  exact continues

end SignatureRouting
