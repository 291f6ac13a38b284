import SignatureRouting.Automaton
import SignatureRouting.Proofs.Frontier

/-!
Whether the second part of a split starts afresh. In a run a split comes at the current node, where
a document is open and none is partly acted on. That does not keep documents from being done there
already. So the rest is untouched exactly if nobody has acted at the current node, and splits are
that clean in all runs of a workflow only if it has a single document or never leaves its start.
-/
namespace SignatureRouting
open Value

namespace Node
variable {start n : Node} {acted : Value → List Value}

structure IsBlank (n : Node) : Prop where
  actors : n.doneActors = []
  documents : n.doneDocuments = []
  progress : ∀ o ∈ n.opened, o.actors = []

theorem isBlank_of_fresh (fresh : n.Fresh) : n.IsBlank :=
  ⟨fresh.nobody_done, fresh.nothing_done, fresh.untouched⟩

theorem startedCount_of_untouched (untouched : ∀ o ∈ n.opened, o.actors = []) :
    n.startedCount = 0 := by
  apply List.countP_eq_zero.2
  intro o opened
  simp [OpenDocument.isStarted, untouched o opened]

theorem Follows.isBlank_iff (h : Follows start n acted) (fresh : start.Fresh) :
    n.IsBlank ↔ ∀ d ∈ start.documents, acted d = [] := by
  constructor
  · intro blank d listed
    cases reached : start.quota.isReachedBy (acted d).length with
    | true =>
      have done := h.progress.done_of_reached listed reached
      simp [blank.documents] at done
    | false => exact blank.progress _ (h.progress.opened_of_short listed reached)
  · intro idle
    constructor
    case actors =>
      rw [List.eq_nil_iff_forall_not_mem]
      intro v done
      obtain ⟨d, listed, found⟩ := h.roster.exists_acted fresh.least (contains_of_mem done)
      simp [idle d listed] at found
    case documents =>
      apply h.progress.nothing_done
      intro d listed
      simp [idle d listed, not_reached_by_zero fresh.least]
    case progress =>
      intro o opened
      obtain ⟨listed, actors, _⟩ := h.progress.mem_opened opened
      rw [actors, idle o.id listed]

theorem Follows.untouched_of_unstarted (h : Follows start n acted) {q : Nat}
    (needs : start.quota.Needs q) (unstarted : n.startedCount = 0) {o : OpenDocument}
    (opened : o ∈ n.opened) : o.actors = [] := by
  obtain ⟨_, actors, short⟩ := h.progress.mem_opened opened
  have below := needs.below (needs.lt_of_unreached short)
  have idle := List.countP_eq_zero.1 unstarted o opened
  rw [← actors, ← lt_congr_right h.quota] at below
  simpa [OpenDocument.isStarted, below] using idle

theorem Follows.unstarted_of_never (h : Follows start n acted) (fresh : start.Fresh)
    (never : ∀ count, start.quota.isReachedBy count = false) : n.startedCount = 0 := by
  apply List.countP_eq_zero.2
  intro o _
  have below := not_below_of_never fresh.most never o.actors.length
  rw [← lt_congr_right h.quota] at below
  simp [OpenDocument.isStarted, below]

/-- Somebody has acted, but no open document counts as partly acted on. -/
structure Misleads (n : Node) : Prop where
  some_open : n.opened ≠ []
  unstarted : n.startedCount = 0
  acted : ¬ n.IsBlank

section Fresh
variable (fresh : start.Fresh)
include fresh

theorem exists_misleading {q : Nat} (needs : start.quota.Needs q)
    (several : 1 < start.documents.length) :
    ∃ m, Worked start m ∧ m.Misleads ∧ m.doneDocuments ≠ [] := by
  obtain ⟨d, e, rest, documents⟩ : ∃ d e rest, start.documents = d :: e :: rest := by
    rcases all : start.documents with _ | ⟨d, _ | ⟨e, rest⟩⟩
    · simp [all] at several
    · simp [all] at several
    · exact ⟨d, e, rest, rfl⟩
  have once := fresh.documents_distinct
  rw [documents] at once
  have apart : [d].contains e = false := by
    rw [contains_singleton]
    exact differs_of_mem (distinct_cons.1 once).1 List.mem_cons_self
  have alone : [d].Sublist start.documents := by simp [documents]
  obtain ⟨acted, done, m, played, complete⟩ :=
    exists_played_complete fresh needs alone (List.cons_ne_nil d [])
  have progress := played.follows.progress
  have first_done : d ∈ m.doneDocuments := by
    apply progress.done_of_reached (by simp [documents])
    rw [(complete d).1]
    exact contains_of_mem (List.mem_singleton_self d)
  have second_open := progress.opened_of_short (d := e) (by simp [documents])
    ((complete e).1.trans apart)
  have untouched : ∀ o ∈ m.opened, o.actors = [] := by
    intro o opened
    obtain ⟨_, actors, short⟩ := progress.mem_opened opened
    rw [(complete o.id).1] at short
    rw [actors, (complete o.id).2 short]
  have some_done := List.ne_nil_of_mem first_done
  refine ⟨m, played.worked, ⟨List.ne_nil_of_mem second_open, ?_, ?_⟩, some_done⟩
  · exact startedCount_of_untouched untouched
  · intro blank
    exact some_done blank.documents

theorem exists_misleading_of_never (never : ∀ count, start.quota.isReachedBy count = false) :
    ∃ m, Worked start m ∧ m.Misleads := by
  obtain ⟨d, listed⟩ := List.exists_mem_of_ne_nil _ fresh.something
  obtain ⟨v, among⟩ := List.exists_mem_of_length_pos fresh.somebody
  have once : Distinct [v] := List.nodup_singleton _
  obtain ⟨acted, done, m, played, shape, _⟩ := exists_played_by fresh
    (List.Sublist.refl start.documents) fresh.something once
    (by simpa using contains_of_mem among) (fun k _ => never k)
  have opened := played.follows.progress.opened_of_short listed (never _)
  refine ⟨m, played.worked, List.ne_nil_of_mem opened, ?_, ?_⟩
  · exact played.follows.unstarted_of_never fresh never
  · intro blank
    have idle := blank.progress _ opened
    rw [shape, if_pos (contains_of_mem listed)] at idle
    contradiction

end Fresh

theorem Misleads.ne_of_fresh {m : Node} (misleads : m.Misleads) (fresh : n.Fresh) : m ≠ n := by
  rintro rfl
  exact misleads.acted (isBlank_of_fresh fresh)

end Node

theorem Automaton.isAtStart_iff_head {a : Automaton} {n : Node} (head : a.nodes[0]? = some n) :
    a.isAtStart = true ↔ a.index = 0 ∧ n.doneDocuments = [] ∧ n.startedCount = 0 := by
  cases nodes : a.nodes with
  | nil => simp [nodes] at head
  | cons m rest =>
    simp only [nodes, List.getElem?_cons_zero, Option.some.injEq] at head
    simp [isAtStart, nodes, head, and_assoc]

theorem Automaton.isAtStart_iff {a : Automaton} {n : Node} (here : a.nodes[a.index]? = some n) :
    a.isAtStart = true ↔ a.index = 0 ∧ n.doneDocuments = [] ∧ n.startedCount = 0 := by
  by_cases first : a.index = 0
  · exact isAtStart_iff_head (first ▸ here)
  · cases nodes : a.nodes <;> simp [isAtStart, nodes, first]

structure Split.IsFresh (s : Split) : Prop where
  previous : s.previous.nodes ≠ []
  atStart : s.next.isAtStart = true
  blank : ∀ n ∈ s.next.nodes, n.IsBlank

namespace Frontier
variable {start a : Automaton} (frontier : Frontier start a)
include frontier

theorem split?_eq_some_iff {s : Split} : a.split? = some s ↔ s = a.splitAt a.index ∧
    ∃ n, a.nodes[a.index]? = some n ∧ n.startedCount = 0 ∧
      (a.index = 0 → n.doneDocuments ≠ []) := by
  cases here : a.nodes[a.index]? with
  | none => simp [Automaton.split?, Automaton.splitPoint?, Automaton.current?, here]
  | some n =>
    have more : a.isAtEnd = false := by
      rw [← Bool.not_eq_true, frontier.isAtEnd_iff, here]
      exact Option.some_ne_none n
    have some_open : n.opened.isEmpty = false :=
      List.isEmpty_eq_false_iff.2 (frontier.current here)
    cases begun : a.isAtStart with
    | true =>
      have untouched := (Automaton.isAtStart_iff here).1 begun
      simp [Automaton.split?, Automaton.splitPoint?, begun, untouched]
    | false =>
      have touched := (Automaton.isAtStart_iff here).not.1 (by simp [begun])
      have cut : a.split? = some s ↔ n.startedCount = 0 ∧ a.splitAt a.index = s := by
        simp [Automaton.split?, Automaton.splitPoint?, more, begun, Automaton.current?, here,
          some_open]
      rw [cut]
      constructor
      · rintro ⟨unstarted, same⟩
        exact ⟨same.symm, n, rfl, unstarted, fun first none => touched ⟨first, none, unstarted⟩⟩
      · rintro ⟨same, m, found, unstarted, _⟩
        rw [Option.some.injEq] at found
        subst found
        exact ⟨unstarted, same.symm⟩

variable (fresh : AllFresh start)
include fresh

theorem isFresh_iff {s : Split} (split : a.split? = some s) {n : Node}
    (here : a.nodes[a.index]? = some n) : s.IsFresh ↔ n.IsBlank := by
  obtain ⟨rfl, m, same, unstarted, progressed⟩ := frontier.split?_eq_some_iff.1 split
  rw [here, Option.some.injEq] at same
  subst same
  have inside : a.index < a.nodes.length := (List.getElem?_eq_some_iff.1 here).1
  have rest : a.nodes.drop a.index = n :: a.nodes.drop (a.index + 1) := by
    rw [List.drop_eq_getElem_cons inside, ← (List.getElem?_eq_some_iff.1 here).2]
  constructor
  · intro clean
    apply clean.blank
    simp [Automaton.splitAt, rest]
  · intro blank
    constructor
    case previous =>
      have behind : a.index ≠ 0 := fun first => progressed first blank.documents
      have some_nodes : a.nodes ≠ [] := List.ne_nil_of_length_pos (by omega)
      simp [Automaton.splitAt, behind, some_nodes]
    case atStart => simp [Automaton.splitAt, Automaton.isAtStart, rest, blank.documents, unstarted]
    case blank =>
      intro m member
      simp only [Automaton.splitAt, rest, List.mem_cons] at member
      rcases member with rfl | later
      · exact blank
      · obtain ⟨i, found⟩ := List.mem_iff_getElem?.1 later
        rw [List.getElem?_drop, frontier.ahead (by omega)] at found
        exact Node.isBlank_of_fresh (fresh.at found)

end Frontier

theorem Run.isBlank_iff {start a : Automaton} {deeds : List Deed} (run : Run start deeds a)
    (fresh : AllFresh start) {k : Nat} {n : Node} (here : a.nodes[k]? = some n) :
    n.IsBlank ↔ ∀ e ∈ log deeds, e.node ≠ k := by
  obtain ⟨emitted, at_place, follows⟩ := (run.follows fresh).start_of_node here
  rw [follows.isBlank_iff (fresh.at at_place)]
  constructor
  · intro idle e logged there
    obtain ⟨s', same_place, _, _, known⟩ := run.event fresh logged
    rw [there, at_place, Option.some.injEq] at same_place
    subst same_place
    obtain ⟨d, listed, same⟩ := exists_same_of_contains known
    have acted := mem_actorsOn logged there same
    simp [idle d listed] at acted
  · intro nowhere d _
    rw [List.eq_nil_iff_forall_not_mem]
    intro v acted
    obtain ⟨e, logged, there, _⟩ := exists_event_of_mem acted
    exact nowhere e logged there

theorem Run.isFresh_iff {start a : Automaton} {deeds : List Deed} (run : Run start deeds a)
    (fresh : AllFresh start) (inside : start.index ≤ start.nodes.length) {s : Split}
    (split : a.split? = some s) : s.IsFresh ↔ ∀ e ∈ log deeds, e.node ≠ a.index := by
  have frontier := run.frontier fresh inside
  obtain ⟨_, n, here, _⟩ := frontier.split?_eq_some_iff.1 split
  rw [frontier.isFresh_iff fresh split here, run.isBlank_iff fresh here]

section Always
variable {start : Automaton} (fresh : AllFresh start) (first : start.index = 0)
include fresh first

theorem no_split_of_stuck (stuck : ∀ n, start.nodes[0]? = some n →
      ∀ count, n.quota.isReachedBy count = false) {deeds : List Deed} {a : Automaton}
    (run : Run start deeds a) : a.split? = none := by
  rw [Option.eq_none_iff_forall_ne_some]
  intro s split
  have frontier := run.frontier fresh (by omega)
  obtain ⟨_, n, here, _, progressed⟩ := frontier.split?_eq_some_iff.1 split
  obtain ⟨emitted, at_index, follows⟩ := (run.follows fresh).start_of_node here
  have inside := (List.getElem?_eq_some_iff.1 at_index).1
  have is_head : start.nodes[0]? = some start.nodes[0] :=
    List.getElem?_eq_getElem (Nat.zero_lt_of_lt inside)
  have waits := run.landing_le_of_never fresh first is_head (stuck _ is_head)
  have unmoved : a.index = 0 := Nat.le_zero.1 (Nat.le_trans a.index_le_landing waits)
  rw [unmoved] at at_index
  apply progressed unmoved
  exact follows.progress.nothing_done fun d _ => stuck emitted at_index _

theorem isFresh_of_single
    (single : ∀ n ∈ start.nodes, n.documents.length ≤ 1 ∧ ∃ q, n.quota.Needs q)
    {deeds : List Deed} {a : Automaton} (run : Run start deeds a) {s : Split}
    (split : a.split? = some s) : s.IsFresh := by
  have frontier := run.frontier fresh (by omega)
  obtain ⟨_, n, here, unstarted, _⟩ := frontier.split?_eq_some_iff.1 split
  obtain ⟨emitted, at_index, follows⟩ := (run.follows fresh).start_of_node here
  obtain ⟨one, q, needs⟩ := single emitted (List.mem_of_getElem? at_index)
  obtain ⟨o, opened⟩ := List.exists_mem_of_ne_nil _ (frontier.current here)
  obtain ⟨listed, actors, _⟩ := follows.progress.mem_opened opened
  apply (frontier.isFresh_iff fresh split here).2
  apply (follows.isBlank_iff (fresh.at at_index)).2
  intro d among
  have same : d = o.id := by
    obtain ⟨i, _, rfl⟩ := List.getElem_of_mem among
    obtain ⟨j, _, at_j⟩ := List.getElem_of_mem listed
    obtain rfl : i = j := by omega
    exact at_j
  rw [same, ← actors]
  exact follows.untouched_of_unstarted needs unstarted opened

theorem exists_unclean_split {k : Nat} {n m : Node} (emitted : start.nodes[k]? = some n)
    (finite : ∀ i < k, ∀ n, start.nodes[i]? = some n → ∃ q, n.quota.Needs q)
    (worked : Node.Worked n m) (misleads : m.Misleads) (begun : k = 0 → m.doneDocuments ≠ []) :
    ∃ deeds a s, Run start deeds a ∧ a.split? = some s ∧ ¬ s.IsFresh := by
  obtain ⟨deeds, a, run, arrived, here⟩ := exists_run_at fresh first emitted finite worked
    misleads.some_open (misleads.ne_of_fresh (fresh.at emitted))
  have frontier := run.frontier fresh (by omega)
  rw [← arrived] at here begun
  have split : a.split? = some (a.splitAt a.index) :=
    frontier.split?_eq_some_iff.2 ⟨rfl, m, here, misleads.unstarted, begun⟩
  refine ⟨deeds, a, _, run, split, ?_⟩
  intro clean
  exact misleads.acted ((frontier.isFresh_iff fresh split here).1 clean)

/-- Where the first node can be left, a quota that is never reached lets some run be split in the
middle of its node. -/
theorem finite_of_splits_fresh (always : ∀ deeds a s, Run start deeds a → a.split? = some s →
      s.IsFresh) {head : Node} (is_head : start.nodes[0]? = some head)
    (leaves : ∃ q, head.quota.Needs q) : ∀ n ∈ start.nodes, ∃ q, n.quota.Needs q := by
  intro n member
  by_contra unreached
  rw [(fresh n member).needs_iff, not_not] at unreached
  obtain ⟨k, s, emitted, never, earlier⟩ := exists_first_place
    (P := fun n : Node => ∀ count, n.quota.isReachedBy count = false) member unreached
  have later : k ≠ 0 := by
    rintro rfl
    rw [is_head, Option.some.injEq] at emitted
    subst emitted
    exact (fresh.at is_head).needs_iff.1 leaves never
  obtain ⟨m, worked, misleads⟩ := Node.exists_misleading_of_never (fresh.at emitted) never
  obtain ⟨deeds, a, split, run, parts, unclean⟩ := exists_unclean_split fresh first emitted
    (fun i before s at_i => (fresh.at at_i).needs_iff.2 (earlier i before s at_i)) worked misleads
    (fun zero => absurd zero later)
  exact unclean (always deeds a split run parts)

theorem single_of_splits_fresh (always : ∀ deeds a s, Run start deeds a → a.split? = some s →
      s.IsFresh) (finite : ∀ n ∈ start.nodes, ∃ q, n.quota.Needs q) {n : Node}
    (member : n ∈ start.nodes) : n.documents.length ≤ 1 := by
  by_contra several
  obtain ⟨k, emitted⟩ := List.mem_iff_getElem?.1 member
  obtain ⟨q, needs⟩ := finite n member
  obtain ⟨m, worked, misleads, some_done⟩ :=
    Node.exists_misleading (fresh.at emitted) needs (Nat.lt_of_not_le several)
  obtain ⟨deeds, a, split, run, parts, unclean⟩ := exists_unclean_split fresh first emitted
    (fun i _ s at_i => finite s (List.mem_of_getElem? at_i)) worked misleads (fun _ => some_done)
  exact unclean (always deeds a split run parts)

end Always

theorem split_is_fresh_iff {setting : Setting} {history : History} {steps : Option (List StepItem)}
    {documents : Option (List Value)} {w : Workflow}
    (built : Workflow.build setting history steps documents = .ok w) :
    (∀ deeds a s, Run w.automaton deeds a → a.split? = some s →
      (s.IsFresh ↔ ∀ e ∈ log deeds, e.node ≠ a.index)) ∧
    ((∀ deeds a s, Run w.automaton deeds a → a.split? = some s → s.IsFresh) ↔
      (∀ n, w.automaton.nodes[0]? = some n → ∀ count, n.quota.isReachedBy count = false) ∨
      w.documents.length ≤ 1 ∧
        ∀ n ∈ w.automaton.nodes, ¬ ∀ count, n.quota.isReachedBy count = false) := by
  have fresh := Workflow.fresh_of_build built
  obtain ⟨first, documents⟩ := Workflow.start_of_build built
  refine ⟨fun deeds a s run split => run.isFresh_iff fresh (by omega) split, ?_⟩
  constructor
  · intro always
    by_cases stuck : ∀ n, w.automaton.nodes[0]? = some n →
        ∀ count, n.quota.isReachedBy count = false
    · exact Or.inl stuck
    · right
      rw [not_forall] at stuck
      obtain ⟨head, stuck⟩ := stuck
      rw [Classical.not_imp] at stuck
      obtain ⟨is_head, leaves⟩ := stuck
      have member := List.mem_of_getElem? is_head
      have finite := finite_of_splits_fresh fresh first always is_head
        ((fresh head member).needs_iff.2 leaves)
      rw [← documents head member]
      exact ⟨single_of_splits_fresh fresh first always finite member,
        fun n also => (fresh n also).needs_iff.1 (finite n also)⟩
  · intro clean deeds a s run split
    rcases clean with stuck | ⟨one, finite⟩
    · rw [no_split_of_stuck fresh first stuck run] at split
      contradiction
    · apply isFresh_of_single fresh first _ run split
      intro n member
      rw [documents n member]
      exact ⟨one, (fresh n member).needs_iff.2 (finite n member)⟩

/-- With a single document the mailing can be split only where a step has not begun. -/
theorem split_is_fresh_with_one :
    ∃ w deeds a s, Workflow.build office .empty (some signThenSend) (some [.int 10]) = .ok w ∧
      w.automaton.play [cosign 1 [10], cosign 2 [10]] = .ok (deeds, a) ∧ a.split? = some s ∧
      s.IsFresh ∧ s.next.nodes.length = 1 := by
  have reached : ∃ w deeds a s cosigning sending,
      Workflow.build office .empty (some signThenSend) (some [.int 10]) = .ok w ∧
      w.automaton.play [cosign 1 [10], cosign 2 [10]] = .ok (deeds, a) ∧ a.split? = some s ∧
      s.next.nodes.length = 1 ∧ w.documents = [.int 10] ∧
      w.automaton.nodes = [cosigning, sending] ∧ cosigning.quota = .int 2 ∧
      sending.quota = .int 1 := ⟨_, _, _, _, _, _, rfl, rfl, rfl, rfl, rfl, rfl, rfl, rfl⟩
  obtain ⟨w, deeds, a, s, cosigning, sending, built, played, split, one, documents, nodes, two,
    single⟩ := reached
  have finite : ∀ n ∈ w.automaton.nodes, ¬ ∀ count, n.quota.isReachedBy count = false := by
    intro n member never
    have reached : n.quota.isReachedBy 2 = true := by
      rw [nodes] at member
      simp only [List.mem_cons, List.not_mem_nil, or_false] at member
      rcases member with rfl | rfl
      · rw [two]
        rfl
      · rw [single]
        rfl
    rw [never] at reached
    contradiction
  have always := (split_is_fresh_iff built).2.2 (Or.inr ⟨by simp [documents], finite⟩)
  exact ⟨w, deeds, a, s, built, played, split, always deeds a s (run_of_play played) split, one⟩

/-- Of three documents one is done, and the rest of its step counts as a step that has not begun. -/
theorem split_carries_progress :
    ∃ w deeds a s, Workflow.build office .empty (some signThenSend)
        (some [.int 10, .int 11, .int 12]) = .ok w ∧
      w.automaton.play [cosign 1 [10], cosign 2 [10]] = .ok (deeds, a) ∧
      a.split? = some s ∧ s.previous.nodes = [] ∧ s.next.isAtStart = false ∧
      s.next.nodes.map (·.doneDocuments) = [[.int 10], []] ∧ ¬ s.IsFresh := by
  have reached : ∃ deeds a s,
      mailing.automaton.play [cosign 1 [10], cosign 2 [10]] = .ok (deeds, a) ∧
      a.split? = some s ∧ s.previous.nodes = [] ∧ s.next.isAtStart = false ∧
      s.next.nodes.map (·.doneDocuments) = [[.int 10], []] := ⟨_, _, _, rfl, rfl, rfl, rfl, rfl⟩
  obtain ⟨deeds, a, s, played, split, nothing, begun, done⟩ := reached
  refine ⟨mailing, deeds, a, s, mailing_built, played, split, nothing, begun, done, ?_⟩
  intro clean
  exact clean.previous nothing

end SignatureRouting
