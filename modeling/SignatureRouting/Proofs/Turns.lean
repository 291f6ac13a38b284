import SignatureRouting.Proofs.Layout
import SignatureRouting.Proofs.Ledger
import SignatureRouting.Proofs.Passing

/-!
Signing one after the other. A sequential step has a node for every actor, in their order, so nobody
acts at it before the actor in front has acted. The order is one of actions, not of documents: an
actor is done after one document, and those behind may then act on the others. The order is kept for
every document exactly if there is one document only, or one actor, or the step is never come to.
-/
namespace SignatureRouting
open Value

def Workflow.stepAt? (w : Workflow) (k : Nat) : Option Value := w.automaton.nodes[k]?.map (·.step)

def HasActed (w : Workflow) (deeds : List Deed) (place : Nat) (actor document : Value) : Prop :=
  ∃ e ∈ log deeds, w.stepAt? e.node = some (.int place) ∧ (e.actor == actor) = true ∧
    (e.document == document) = true

def KeepsTurns (w : Workflow) (place : Nat) (actors : List Value) : Prop :=
  ∀ deeds a, Run w.automaton deeds a → ∀ x t, a.transition x = .ok t →
    w.stepAt? t.landing = some (.int place) →
      ∀ (j : Nat) (v u : Value), actors[j]? = some v → actors[j + 1]? = some u →
        (x.actor == u) = true → ∀ d, t.requested.contains d = true → HasActed w deeds place v d

theorem Workflow.exists_of_stepAt? {w : Workflow} {k : Nat} {place : Value}
    (step : w.stepAt? k = some place) :
    ∃ s, w.automaton.nodes[k]? = some s ∧ s.step = place :=
  Option.map_eq_some_iff.1 step

structure InSequence (w : Workflow) (place : Nat) (actors : List Value) (first : Nat) : Prop where
  distinct : Distinct actors
  turn : ∀ {j : Nat} {v : Value}, actors[j]? = some v →
    ∃ s, w.automaton.nodes[first + j]? = some s ∧ s.actors = [v] ∧ s.quota = .int 1
  within : ∀ {k : Nat}, w.stepAt? k = some (.int place) ↔ first ≤ k ∧ k < first + actors.length
  earlier : ∀ {k : Nat} {s : Node}, w.automaton.nodes[k]? = some s →
    (k < first ↔ ∃ other : Nat, s.step = .int other ∧ other < place)

section InSequence
variable {w : Workflow} {place : Nat} {actors : List Value} {first : Nat}
  (sequence : InSequence w place actors first)
include sequence

theorem InSequence.turn_of {k : Nat} (step : w.stepAt? k = some (.int place)) {s : Node}
    (emitted : w.automaton.nodes[k]? = some s) {actor : Value}
    (known : s.actors.contains actor = true) :
    ∃ j v, k = first + j ∧ actors[j]? = some v ∧ (actor == v) = true := by
  obtain ⟨after, before⟩ := sequence.within.1 step
  have among : actors[k - first]? = some actors[k - first] := List.getElem?_eq_getElem (by omega)
  obtain ⟨s', found, alone, _⟩ := sequence.turn among
  rw [Nat.add_sub_cancel' after] at found
  obtain rfl := Option.some.inj (emitted.symm.trans found)
  rw [alone, contains_singleton] at known
  exact ⟨k - first, _, (Nat.add_sub_cancel' after).symm, among, known⟩

variable (zero : w.automaton.index = 0) (fresh : AllFresh w.automaton)
  (shared : ∀ s ∈ w.automaton.nodes, s.documents = w.documents)
include zero fresh shared

/-- The actor in front has acted on the document, or on another one and has left this behind. -/
theorem InSequence.acted_or_strands {deeds : List Deed} {a : Automaton}
    (run : Run w.automaton deeds a) {x : Action} {t : Transition}
    (accepted : a.transition x = .ok t) (step : w.stepAt? t.landing = some (.int place)) {j : Nat}
    {v u : Value} (front : actors[j]? = some v) (next : actors[j + 1]? = some u)
    (acts : (x.actor == u) = true) {d : Value} (asked : t.requested.contains d = true) :
    HasActed w deeds place v d ∨ 1 < w.documents.length ∧
      ∃ k < t.landing, w.stepAt? k = some (.int place) ∧
        (∃ n, a.nodes[k]? = some n ∧ n.Strands d) ∧
        ∃ e ∈ log deeds, e.node = k ∧ (e.actor == v) = true := by
  obtain ⟨s, emitted, _, known, document⟩ := run.landed fresh accepted asked
  obtain ⟨i, u', landed, among, same⟩ := sequence.turn_of step emitted known
  obtain rfl : j + 1 = i := sequence.distinct.index_eq next among (same_trans (same_symm acts) same)
  obtain ⟨s', at_front, alone, _⟩ := sequence.turn front
  have before : first + j < a.landing := by
    rw [← Automaton.landing_of_transition accepted]
    omega
  have inside : j < actors.length := (List.getElem?_eq_some_iff.1 front).1
  have own_step : w.stepAt? (first + j) = some (.int place) :=
    sequence.within.2 ⟨Nat.le_add_right _ _, by omega⟩
  have all := shared s' (List.mem_of_getElem? at_front)
  rw [shared s (List.mem_of_getElem? emitted), ← all] at document
  rcases run.event_or_strands fresh zero before at_front document with acted | stranded
  · obtain ⟨e, member, here, at_document⟩ := acted
    obtain ⟨s'', again, _, actor, _⟩ := run.event fresh member
    rw [here, at_front, Option.some.injEq] at again
    subst again
    rw [alone, contains_singleton] at actor
    exact Or.inl ⟨e, member, here ▸ own_step, actor, at_document⟩
  · obtain ⟨n, here, strands, few⟩ := stranded
    rw [alone, all] at few
    have own : s'.actors.contains v = true := by rw [alone, contains_singleton, same_refl]
    exact Or.inr ⟨few, first + j, by omega, own_step, ⟨n, here, strands⟩,
      run.exists_event_of_strands fresh at_front here strands own⟩

theorem InSequence.not_keepsTurns (several : 1 < actors.length) (more : 1 < w.documents.length)
    (reachable : ∀ k < first, ∀ s : Node, w.automaton.nodes[k]? = some s → ∃ q, s.quota.Needs q) :
    ¬ KeepsTurns w place actors := by
  intro keeps
  have front : actors[0]? = some actors[0] := List.getElem?_eq_getElem (Nat.lt_of_succ_lt several)
  have next : actors[0 + 1]? = some actors[1] := List.getElem?_eq_getElem several
  obtain ⟨s, at_front, alone, quota⟩ := sequence.turn front
  obtain ⟨s', at_next, alone', _⟩ := sequence.turn next
  obtain ⟨d, listed⟩ := List.exists_mem_of_length_pos (Nat.lt_of_succ_lt more)
  obtain ⟨deeds, a, run, landed, here, behind⟩ := exists_run_leaving fresh zero at_next (d := d)
    (P := fun k _ => k = first) fun k before m at_k => by
      rw [shared m (List.mem_of_getElem? at_k)]
      rcases Nat.lt_or_eq_of_le (Nat.le_of_lt_succ before) with earlier | rfl
      · exact ⟨reachable k earlier m at_k, fun same => absurd same (Nat.ne_of_lt earlier)⟩
      · obtain rfl := Option.some.inj (at_front.symm.trans at_k)
        rw [alone, quota]
        exact ⟨⟨1, needs_of_same_int (same_refl _)⟩, fun _ => ⟨more, contains_of_mem listed⟩⟩
  obtain ⟨t, accepted, at_landing, _, asked⟩ := exists_accepted (fresh.at at_next) (landed ▸ here)
    (v := actors[1]) (by rw [alone']; exact List.mem_singleton_self _)
    (by rwa [shared s' (List.mem_of_getElem? at_next)])
  obtain ⟨e, member, step, actor, document⟩ := keeps deeds a run _ t accepted
    (by rw [at_landing, landed]; exact sequence.within.2 ⟨by omega, by omega⟩)
    0 _ _ front next (same_refl _) d
    (by rw [asked]; exact contains_of_mem (List.mem_singleton_self d))
  obtain ⟨m, at_event, _, known, _⟩ := run.event fresh member
  obtain ⟨i, v, place_of, among, same⟩ := sequence.turn_of step at_event known
  obtain rfl : 0 = i := sequence.distinct.index_eq front among (same_trans (same_symm actor) same)
  obtain ⟨n, found, strands⟩ := behind first (by omega) s at_front rfl
  have at_first : e.node = first := place_of
  exact run.not_strands_of_event fresh member document (at_first ▸ found) strands

theorem InSequence.keepsTurns_iff :
    KeepsTurns w place actors ↔ actors.length ≤ 1 ∨ w.documents.length = 1 ∨
      ∃ s ∈ w.automaton.nodes, (∃ other : Nat, s.step = .int other ∧ other < place) ∧
        ∀ count, s.quota.isReachedBy count = false := by
  constructor
  · intro keeps
    by_contra loose
    rw [not_or, not_or, Nat.not_le] at loose
    obtain ⟨several, documents, reachable⟩ := loose
    obtain ⟨s, at_front, _⟩ := sequence.turn (List.getElem?_eq_getElem (Nat.lt_of_succ_lt several))
    have some := List.length_pos_iff.2 (fresh.at at_front).something
    rw [shared s (List.mem_of_getElem? at_front)] at some
    refine sequence.not_keepsTurns zero fresh shared several (by omega) ?_ keeps
    intro k before m at_k
    have own := fresh.at at_k
    exact own.needs_iff.2 fun never =>
      reachable ⟨m, List.mem_of_getElem? at_k, (sequence.earlier at_k).1 before, never⟩
  · intro strict deeds a run x t accepted step j v u front next acts d asked
    rcases sequence.acted_or_strands zero fresh shared run accepted step front next acts asked with
      acted | ⟨more, _⟩
    · exact acted
    have inside : j + 1 < actors.length := (List.getElem?_eq_some_iff.1 next).1
    rcases strict with alone | single | ⟨s, member, earlier, never⟩
    · omega
    · omega
    · obtain ⟨k, at_k⟩ := List.mem_iff_getElem?.1 member
      have before : k < a.landing := by
        rw [← Automaton.landing_of_transition accepted]
        exact Nat.lt_of_lt_of_le ((sequence.earlier at_k).2 earlier) (sequence.within.1 step).1
      have stuck := run.landing_le_of_never fresh zero at_k never
      omega

end InSequence

namespace StepPlan

theorem specs_of_sequential {plan : StepPlan} (signs : plan.role = .standard .signature)
    (sequential : Tag.isSequential plan.tag = true) (documents : List Value) :
    plan.specs documents = .ok (plan.actors.map fun actor =>
      ⟨.int plan.place, .signature, .text plan.tag, [actor], documents, .int 1⟩) := by
  have apart : Tag.isShared plan.tag = false := by
    rw [Tag.isSequential, Bool.or_eq_true, beq_iff_eq, beq_iff_eq] at sequential
    rcases sequential with tag | tag <;> rw [tag] <;> decide
  rw [specs, signs]
  simp only [apart, sequential, Bool.false_eq_true, if_false, if_true]

end StepPlan

section Built
variable {setting : Setting} {history : History} {items : List StepItem}
  {documents : Option (List Value)} {w : Workflow}
  (built : Workflow.build setting history (some items) documents = .ok w)
  {place : Nat} {step : Step} (listed : items[place]? = some (.step step))
  (sequential : Tag.isSequential step.tag = true)
  (signs : setting.resolver.resolve step.process = .found (.standard .signature))
  {references actors : List Value} (given : step.participants = some references)
  (named : references.map setting.actor? = actors.map some)
include built listed sequential signs given named

theorem inSequence_of_build : ∃ first, InSequence w place actors first := by
  obtain ⟨plan, specs, front, back, planned, emitted, parts, before, here, after⟩ :=
    nodes_around_step built listed
  obtain ⟨sound, _, _⟩ := Setting.plan_sound planned
  obtain ⟨role, own, quota, resolved, _, after_names, _, rfl⟩ := Setting.planStep_eq_ok planned
  obtain rfl : role = .standard .signature :=
    (Resolution.found.inj (signs.symm.trans (Setting.role_eq_ok resolved).1)).symm
  obtain rfl : own = actors := by
    obtain ⟨_, again, same⟩ := Setting.actors_named after_names
    obtain rfl := Option.some.inj (given.symm.trans again)
    exact List.map_injective_iff.2 (Option.some_injective _) (same.symm.trans named)
  rw [StepPlan.specs_of_sequential rfl sequential, Except.ok.injEq] at emitted
  have count : (specs.map NodeSpec.node).length = own.length := by simp [← emitted]
  have around : ∀ {k : Nat} {n : Node}, w.automaton.nodes[k]? = some n →
      ∃ other : Nat, n.step = .int other ∧ (other < place ↔ k < front.length) ∧
        (place < other ↔ front.length + own.length ≤ k) := by
    intro k n found
    rw [← count]
    exact places_around parts before here after found
  have turn : ∀ {j : Nat} {v : Value}, own[j]? = some v →
      ∃ s, w.automaton.nodes[front.length + j]? = some s ∧ s.actors = [v] ∧ s.quota = .int 1 := by
    intro j v among
    have inside : j < own.length := (List.getElem?_eq_some_iff.1 among).1
    rw [parts, List.getElem?_append_right (Nat.le_add_right _ _), Nat.add_sub_cancel_left,
      List.getElem?_append_left (count ▸ inside), ← emitted, List.map_map, List.getElem?_map, among]
    exact ⟨_, rfl, rfl, rfl⟩
  refine ⟨front.length, sound.distinct, turn, fun {k} => ⟨fun at_step => ?_, fun bounds => ?_⟩,
    fun {k s} found => ?_⟩
  · obtain ⟨s, found, step⟩ := Workflow.exists_of_stepAt? at_step
    obtain ⟨other, same, less, more⟩ := around found
    have equal := Value.int.inj (same.symm.trans step)
    omega
  · obtain ⟨v, among⟩ : ∃ v, own[k - front.length]? = some v :=
      ⟨_, List.getElem?_eq_getElem (by omega)⟩
    obtain ⟨s, found, _⟩ := turn among
    rw [Nat.add_sub_cancel' bounds.1] at found
    obtain ⟨other, same, less, more⟩ := around found
    obtain rfl : other = place := by omega
    rw [Workflow.stepAt?, found, ← same]
    rfl
  · obtain ⟨other, same, less, _⟩ := around found
    rw [← less]
    constructor
    · exact fun fewer => ⟨other, same, fewer⟩
    · rintro ⟨other', same', fewer⟩
      have equal := Value.int.inj (same.symm.trans same')
      omega

theorem turns_kept_or_stranded :
    (∀ deeds a, Run w.automaton deeds a → ∀ x t, a.transition x = .ok t →
      w.stepAt? t.landing = some (.int place) →
        ∀ (j : Nat) (v u : Value), actors[j]? = some v → actors[j + 1]? = some u →
          (x.actor == u) = true → ∀ d, t.requested.contains d = true →
            HasActed w deeds place v d ∨
              ∃ k < t.landing, w.stepAt? k = some (.int place) ∧
                (∃ n, a.nodes[k]? = some n ∧ n.Strands d) ∧
                ∃ e ∈ log deeds, e.node = k ∧ (e.actor == v) = true) ∧
    (KeepsTurns w place actors ↔ actors.length ≤ 1 ∨ w.documents.length = 1 ∨
      ∃ s ∈ w.automaton.nodes, (∃ other : Nat, s.step = .int other ∧ other < place) ∧
        ∀ count, s.quota.isReachedBy count = false) := by
  obtain ⟨first, sequence⟩ := inSequence_of_build built listed sequential signs given named
  obtain ⟨zero, shared⟩ := Workflow.start_of_build built
  have fresh := Workflow.fresh_of_build built
  refine ⟨fun deeds a run x t accepted step j v u front next acts d asked => ?_,
    sequence.keepsTurns_iff zero fresh shared⟩
  exact (sequence.acted_or_strands zero fresh shared run accepted step front next acts asked).imp
    id And.right

end Built

def countersigning : Step :=
  { process := .text "countersign", participants := some [.text "a", .text "b"],
    signatureType := .int 1, cardinality := .authored (.int 2) }

theorem countersigning_keeps_turns :
    ∃ w, Workflow.build office .empty (some [.step countersigning]) (some [.int 10]) = .ok w ∧
      KeepsTurns w 0 [.int 1, .int 2] := by
  have reached : ∃ w, Workflow.build office .empty (some [.step countersigning])
      (some [.int 10]) = .ok w ∧ w.documents.length = 1 := ⟨_, rfl, rfl⟩
  obtain ⟨w, built, single⟩ := reached
  have first : [StepItem.step countersigning][0]? = some (.step countersigning) := rfl
  exact ⟨w, built,
    (turns_kept_or_stranded built first rfl rfl rfl rfl).2.2 (Or.inr (Or.inl single))⟩

/-- The first signer is done after one document, and the second signs the other without it. Where
countersigning counts as approving, the second need not even wait. -/
theorem turns_not_kept :
    (∃ w deeds a t,
      Workflow.build office .empty (some [.step countersigning]) (some [.int 10, .int 11]) = .ok w ∧
      w.automaton.play [⟨.int 1, .text "countersign", [.int 10]⟩] = .ok (deeds, a) ∧
      a.transition ⟨.int 2, .text "countersign", [.int 11]⟩ = .ok t ∧
      w.stepAt? t.landing = some (.int 0) ∧ t.requested.contains (.int 11) = true ∧
      ¬ HasActed w deeds 0 (.int 1) (.int 11)) ∧
    ∃ w t,
      Workflow.build ⟨⟨fun _ => .found (.standard .approval), fun _ _ _ => true⟩,
        office.participants, .null⟩ .empty (some [.step countersigning]) (some [.int 10]) = .ok w ∧
      w.automaton.transition ⟨.int 2, .text "countersign", [.int 10]⟩ = .ok t ∧
      w.stepAt? t.landing = some (.int 0) ∧ t.requested.contains (.int 10) = true ∧
      ¬ HasActed w [] 0 (.int 1) (.int 10) := by
  constructor
  · refine ⟨_, _, _, _, rfl, rfl, rfl, rfl,
      contains_of_mem (List.mem_singleton_self (Value.int 11)), ?_⟩
    rintro ⟨e, member, _, _, same⟩
    have only : e = ⟨0, .signature, .int 1, .int 10⟩ := List.mem_singleton.1 member
    rw [only] at same
    contradiction
  · refine ⟨_, _, rfl, rfl, rfl, contains_of_mem (List.mem_singleton_self (Value.int 10)), ?_⟩
    rintro ⟨e, member, _⟩
    exact List.not_mem_nil member

end SignatureRouting
