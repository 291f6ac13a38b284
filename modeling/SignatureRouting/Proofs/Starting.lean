import SignatureRouting.Proofs.Layout
import SignatureRouting.Proofs.Resumption

/-!
Whether anybody has acted. This is read off the cursor and the first node alone: the cursor has not
moved, no document of that node is done, and none counts as partly acted on. In a run that tells
exactly whether a document has been acted on at all, since the first one that is acted on is acted
on at the first node. Only where the quota of that node is undefined it does not, because then no
document ever counts as partly acted on.
-/
namespace SignatureRouting
open Value

namespace Node
variable {start n : Node} {acted : Value → List Value}

theorem Follows.isBlank_of_unstarted (h : Follows start n acted) (fresh : start.Fresh) {q : Nat}
    (needs : start.quota.Needs q) (nothing : n.doneDocuments = [])
    (unstarted : n.startedCount = 0) : n.IsBlank := by
  rw [h.isBlank_iff fresh]
  intro d listed
  cases reached : start.quota.isReachedBy (acted d).length with
  | true =>
    have done := h.progress.done_of_reached listed reached
    simp [nothing] at done
  | false =>
    have opened := h.progress.opened_of_short listed reached
    exact h.untouched_of_unstarted needs unstarted opened

theorem Follows.unfinished_of_isBlank (h : Follows start n acted) (fresh : start.Fresh)
    (blank : n.IsBlank) : n.isFinished = false := by
  obtain ⟨d, listed⟩ := List.exists_mem_of_ne_nil _ fresh.something
  have idle := (h.isBlank_iff fresh).1 blank d listed
  have short : start.quota.isReachedBy (acted d).length = false := by
    rw [idle]
    exact not_reached_by_zero fresh.least
  have opened := h.progress.opened_of_short listed short
  exact h.unfinished_of_open fresh (List.ne_nil_of_mem opened) blank.actors

end Node

theorem Run.log_eq_nil_iff {start a : Automaton} {deeds : List Deed} (run : Run start deeds a) :
    log deeds = [] ↔ ∀ deed ∈ deeds, deed.action.documents = [] := by
  induction run with
  | none => simp [log]
  | @act deeds a x t before accepted ih =>
    obtain ⟨_, _, _, _, different, _⟩ := Automaton.of_transition accepted
    have asked : Deed.events ⟨x, t⟩ = [] ↔ x.documents = [] := by
      rw [Deed.events, List.map_eq_nil_iff]
      exact eq_nil_iff_of_unique? different
    rw [log_append_one, List.append_eq_nil_iff, ih, asked]
    simp [or_imp, forall_and]

section Start
variable {start a : Automaton} {deeds : List Deed} {head n : Node} (run : Run start deeds a)
  (fresh : AllFresh start) (first : start.index = 0)
include run fresh first

theorem Run.log_eq_nil_iff_head (here : a.nodes[0]? = some n) :
    log deeds = [] ↔ a.index = 0 ∧ n.IsBlank := by
  rw [run.isBlank_iff fresh here]
  constructor
  · intro nothing
    have idle : ∀ e ∈ log deeds, e.node ≠ 0 := by simp [nothing]
    refine ⟨?_, idle⟩
    by_contra moved
    obtain ⟨s, emitted, follows⟩ := (run.follows fresh).start_of_node here
    have passed : 0 < a.landing := Nat.lt_of_lt_of_le (Nat.pos_of_ne_zero moved) a.index_le_landing
    obtain ⟨m, found, finished⟩ := run.finished_behind first passed
    rw [here, Option.some.injEq] at found
    subst found
    rw [follows.unfinished_of_isBlank (fresh.at emitted) ((run.isBlank_iff fresh here).2 idle)]
      at finished
    contradiction
  · rintro ⟨index, idle⟩
    rw [List.eq_nil_iff_forall_not_mem]
    intro e logged
    obtain ⟨s, emitted, _⟩ := run.event fresh logged
    -- What is not logged at the first node is logged at one that is still as it was emitted.
    have ahead := (run.frontier fresh (by omega)).ahead
      (index ▸ Nat.pos_of_ne_zero (idle e logged))
    rw [emitted] at ahead
    exact (run.isBlank_iff fresh ahead).1 (Node.isBlank_of_fresh (fresh.at emitted)) e logged rfl

variable (is_head : start.nodes[0]? = some head)
include is_head

theorem Run.isAtStart_iff : a.isAtStart = true ↔
    (∀ deed ∈ deeds, deed.action.documents = []) ∨ head.quota.isUndefined = true := by
  obtain ⟨n, here, follows⟩ := (run.follows fresh).node_of_start is_head
  have own := fresh.at is_head
  rw [← run.log_eq_nil_iff, run.log_eq_nil_iff_head fresh first here,
    Automaton.isAtStart_iff_head here, ← never_iff_undefined own.countable own.most]
  rcases needs_or_never own.least own.most with never | ⟨q, needs, _⟩
  · have stays : a.index = 0 := Nat.le_zero.1
      (Nat.le_trans a.index_le_landing (run.landing_le_of_never fresh first is_head never))
    have nothing := follows.progress.nothing_done fun d _ => never _
    have unstarted := follows.unstarted_of_never own never
    simp [never, stays, nothing, unstarted]
  · have reachable := own.needs_iff.1 ⟨q, needs⟩
    rw [or_iff_left reachable]
    constructor
    · rintro ⟨index, nothing, unstarted⟩
      exact ⟨index, follows.isBlank_of_unstarted own needs nothing unstarted⟩
    · rintro ⟨index, blank⟩
      exact ⟨index, blank.documents, Node.startedCount_of_untouched blank.progress⟩

end Start

theorem Run.isAtStart?_eq {start a : Automaton} {deeds : List Deed} {head : Node}
    (run : Run start deeds a) (fresh : AllFresh start) (is_head : start.nodes[0]? = some head) :
    a.isAtStart? = .ok a.isAtStart := by
  obtain ⟨n, here, follows⟩ := (run.follows fresh).node_of_start is_head
  have number : n.quota.isNumber = true := by
    rw [isNumber_congr follows.quota]
    exact (fresh.at is_head).countable
  simp [Automaton.isAtStart?, List.head?_eq_getElem?, here, Node.isCountable, number]

theorem exists_unnoticed_run {start : Automaton} (fresh : AllFresh start) (first : start.index = 0)
    {head : Node} (is_head : start.nodes[0]? = some head)
    (undefined : head.quota.isUndefined = true) :
    ∃ deeds a, Run start deeds a ∧ a.isAtStart = true ∧
      ¬ ∀ deed ∈ deeds, deed.action.documents = [] := by
  have own := fresh.at is_head
  have never := (never_iff_undefined own.countable own.most).2 undefined
  obtain ⟨m, worked, misleads⟩ := Node.exists_misleading_of_never own never
  obtain ⟨deeds, a, run, _, here⟩ := exists_run_at fresh first is_head (by simp) worked
    misleads.some_open (misleads.ne_of_fresh own)
  refine ⟨deeds, a, run, (run.isAtStart_iff fresh first is_head).2 (Or.inr undefined), ?_⟩
  intro idle
  have nothing := run.log_eq_nil_iff.2 idle
  exact misleads.acted ((run.log_eq_nil_iff_head fresh first here).1 nothing).2

section Built
variable {setting : Setting} {history : History} {steps : Option (List StepItem)}
  {documents : Option (List Value)} {w : Workflow}
  (built : Workflow.build setting history steps documents = .ok w)
include built

theorem exists_head_of_build : ∃ head, w.automaton.nodes[0]? = some head := by
  obtain ⟨_, items, _, _, _, rfl, nonempty, _⟩ := Workflow.build_eq_ok built
  obtain ⟨_, _, good, _⟩ := Workflow.draft_of_build built
  obtain ⟨item, rest, rfl⟩ := List.exists_cons_of_ne_nil nonempty
  have listed : (item :: rest)[0]? = some item := rfl
  obtain ⟨plan, specs, front, back, planned, emitted, nodes, _⟩ := nodes_around_step built listed
  have sound := (Setting.plan_sound planned).1
  obtain ⟨_, _, emits⟩ := StepPlan.emits_of_specs sound good emitted
  have specified : specs ≠ [] := by
    rintro rfl
    have nobody := emits.actors
    have somebody := sound.some
    simp [← nobody] at somebody
  have somewhere : 0 < w.automaton.nodes.length := by
    have count := List.length_pos_iff.2 specified
    simp only [nodes, List.length_append, List.length_map]
    omega
  exact ⟨_, List.getElem?_eq_getElem somewhere⟩

/-- A workflow is at its start exactly as long as no document has been acted on, unless the quota of
its first node is undefined. Then it stays at its start, although documents can be acted on. -/
theorem start_is_exact_iff :
    ∃ head, w.automaton.nodes[0]? = some head ∧
      (∀ deeds a, Run w.automaton deeds a → a.isAtStart? = .ok a.isAtStart ∧
        (a.isAtStart = true ↔
          (∀ deed ∈ deeds, deed.action.documents = []) ∨ head.quota.isUndefined = true)) ∧
      ((∀ deeds a, Run w.automaton deeds a →
          (a.isAtStart = true ↔ ∀ deed ∈ deeds, deed.action.documents = [])) ↔
        head.quota.isUndefined = false) := by
  have fresh := Workflow.fresh_of_build built
  have first := (Workflow.start_of_build built).1
  obtain ⟨head, is_head⟩ := exists_head_of_build built
  refine ⟨head, is_head, fun deeds a run => ?_, ?_⟩
  · exact ⟨run.isAtStart?_eq fresh is_head, run.isAtStart_iff fresh first is_head⟩
  · constructor
    · intro exact_always
      rw [← Bool.not_eq_true]
      intro undefined
      obtain ⟨deeds, a, run, begun, acted⟩ := exists_unnoticed_run fresh first is_head undefined
      exact acted ((exact_always deeds a run).1 begun)
    · intro defined deeds a run
      rw [run.isAtStart_iff fresh first is_head]
      simp [defined]

end Built

theorem start_is_exact_while_mailing :
    ∃ idle a deeds b,
      mailing.automaton.play [cosign 1 []] = .ok (idle, a) ∧ a.isAtStart? = .ok true ∧
      mailing.automaton.play [cosign 1 [], cosign 2 [11]] = .ok (deeds, b) ∧
      b.isAtStart? = .ok false := by
  have played : ∃ idle a deeds b,
      mailing.automaton.play [cosign 1 []] = .ok (idle, a) ∧
      mailing.automaton.play [cosign 1 [], cosign 2 [11]] = .ok (deeds, b) ∧
      idle.map (·.action.documents) = [[]] ∧
      deeds.map (·.action.documents) = [[], [.int 11]] := ⟨_, _, _, _, rfl, rfl, rfl, rfl⟩
  obtain ⟨idle, a, deeds, b, before, after, nothing, something⟩ := played
  obtain ⟨head, is_head, told, always⟩ := start_is_exact_iff mailing_built
  obtain rfl : cosignNode = head := Option.some.inj is_head
  have exact_here := always.2 rfl
  have begun : a.isAtStart = true := by
    apply (exact_here idle a (run_of_play before)).2
    intro deed listed
    simpa [nothing] using List.mem_map_of_mem (f := fun d : Deed => d.action.documents) listed
  have acted : b.isAtStart = false := by
    rw [← Bool.not_eq_true, exact_here deeds b (run_of_play after)]
    intro empty
    have none_given : ∀ ds ∈ deeds.map (·.action.documents), ds = [] := by
      simpa [List.forall_mem_map] using empty
    simp [something] at none_given
  refine ⟨idle, a, deeds, b, before, ?_, after, ?_⟩
  · rw [(told idle a (run_of_play before)).1, begun]
  · rw [(told deeds b (run_of_play after)).1, acted]

def uncountedSigning : List StepItem :=
  [.step { process := .text "cosign", participants := some [.text "a", .text "b"],
           signatureType := .int 1, cardinality := .settled (.exact (.float .undefined)) }]

theorem start_unnoticed_uncounted :
    ∃ w deeds a n,
      Workflow.build office .empty (some uncountedSigning) (some [.int 10]) = .ok w ∧
      w.automaton.play [cosign 1 [10]] = .ok (deeds, a) ∧ a.nodes = [n] ∧
      n.opened = [⟨.int 10, [.int 1]⟩] ∧ a.isAtStart? = .ok true ∧
      ¬ (a.isAtStart = true ↔ ∀ deed ∈ deeds, deed.action.documents = []) := by
  have played : ∃ w deeds a n,
      Workflow.build office .empty (some uncountedSigning) (some [.int 10]) = .ok w ∧
      w.automaton.play [cosign 1 [10]] = .ok (deeds, a) ∧ a.nodes = [n] ∧
      n.opened = [⟨.int 10, [.int 1]⟩] ∧ a.isAtStart? = .ok true ∧ a.isAtStart = true ∧
      deeds.map (·.action.documents) = [[.int 10]] :=
    ⟨_, _, _, _, rfl, rfl, rfl, rfl, rfl, rfl, rfl⟩
  obtain ⟨w, deeds, a, n, built, played, alone, opened, told, begun, something⟩ := played
  refine ⟨w, deeds, a, n, built, played, alone, opened, told, ?_⟩
  intro is_exact
  have none_given : ∀ ds ∈ deeds.map (·.action.documents), ds = [] := by
    simpa [List.forall_mem_map] using is_exact.1 begun
  simp [something] at none_given

end SignatureRouting
