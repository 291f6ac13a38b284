import SignatureRouting.Proofs.Ledger

/-!
States in which nothing can be done although the workflow has not ended. In a run of a built
workflow these are the states where the action would land on a node at which everyone who may still
act has acted on every open document.
-/
namespace SignatureRouting
open Value

namespace Automaton

def IsTerminated (a : Automaton) : Prop := ∀ x : Action, a.transition x = .error .terminated

def IsActionable (a : Automaton) : Prop :=
  ∃ (x : Action) (t : Transition), x.documents ≠ [] ∧ a.transition x = .ok t

def IsBlocked (a : Automaton) : Prop := ¬ a.IsTerminated ∧ ¬ a.IsActionable

theorem isTerminated_iff {a : Automaton} : a.IsTerminated ↔ a.nodes[a.landing]? = none := by
  constructor
  · intro ended
    exact transition_terminated_iff.1 (ended ⟨.null, .null, []⟩)
  · intro gone x
    exact transition_terminated_iff.2 gone

end Automaton

namespace Node

def IsExhausted (n : Node) : Prop :=
  ∀ v, n.isEligible v = true → ∀ o ∈ n.opened, o.actors.contains v = true

theorem exists_eligible_of_unfinished {n : Node} (unfinished : n.isFinished = false) :
    n.opened ≠ [] ∧ ∃ v ∈ n.actors, n.isEligible v = true := by
  rw [isFinished, Bool.or_eq_false_iff, List.isEmpty_eq_false_iff, List.all_eq_false] at unfinished
  obtain ⟨some, v, member, absent⟩ := unfinished
  refine ⟨some, v, member, ?_⟩
  rw [Bool.not_eq_true] at absent
  rw [isEligible, contains_of_mem member, absent]
  rfl

theorem unfinished_of_eligible {n : Node} (some : n.opened ≠ []) {v : Value}
    (eligible : n.isEligible v = true) : n.isFinished = false := by
  rw [isEligible, Bool.and_eq_true, Bool.not_eq_true'] at eligible
  obtain ⟨w, member, same⟩ := exists_same_of_contains eligible.1
  rw [isFinished, Bool.or_eq_false_iff, List.isEmpty_eq_false_iff, List.all_eq_false]
  refine ⟨some, w, member, ?_⟩
  rw [← contains_congr _ same, eligible.2]
  exact Bool.false_ne_true

theorem unfinished_of_accept {n : Node} {x : Action} {requested : List Value}
    (accepted : n.accept x = .ok requested) (some : requested ≠ []) : n.isFinished = false := by
  obtain ⟨_, eligible, _, _, clear⟩ := accept_eq_ok_iff.1 accepted
  obtain ⟨d, member⟩ := List.exists_mem_of_ne_nil _ some
  obtain ⟨_, o, found, _⟩ := Node.obstacle?_eq_none_iff.1 (clear d member)
  obtain ⟨i, _, entry⟩ := Option.bind_eq_some_iff.1 found
  exact unfinished_of_eligible (List.ne_nil_of_mem (List.mem_of_getElem? entry)) eligible

section Follows
variable {start n : Node} {acted : Value → List Value} (h : Follows start n acted)
  (fresh : start.Fresh)
include h fresh

theorem Follows.accept_eq_ok {v : Value} (eligible : n.isEligible v = true) {ds : List Value}
    (once : Distinct ds) (wanted : ∀ d ∈ ds, d ∈ start.documents ∧
      start.quota.isReachedBy (acted d).length = false ∧ (acted d).contains v = false) :
    n.accept ⟨v, n.tag, ds⟩ = .ok ds := by
  obtain ⟨word, tag⟩ := fresh.tag
  refine accept_eq_ok_iff.2 ⟨?_, eligible, ?_, ?_, fun d member => ?_⟩
  · rw [h.tag, tag, equals_of_defined rfl]
    exact same_refl _
  · have identifiers : ds.all isIdentifier = true :=
      List.all_eq_true.2 fun d member => fresh.identifiers d (wanted d member).1
    rw [unique?, if_pos identifiers, unique_of_distinct once]
  · rw [isNumber_congr h.quota]
    exact fresh.countable
  · obtain ⟨known, short, unmet⟩ := wanted d member
    exact (h.obstacle?_eq_none_iff fresh.documents_distinct).2 ⟨contains_of_mem known, short, unmet⟩

theorem Follows.of_accept {x : Action} {requested : List Value}
    (accepted : n.accept x = .ok requested) :
    Follows start (n.record x.actor requested) (actedAfter acted x.actor requested) := by
  obtain ⟨_, eligible, _, _, clear⟩ := accept_eq_ok_iff.1 accepted
  exact h.record_follows fresh.documents_distinct eligible clear

theorem Follows.isExhausted_iff :
    n.IsExhausted ↔ ∀ (x : Action) (requested : List Value), x.documents ≠ [] →
      n.accept x ≠ .ok requested := by
  constructor
  · intro exhausted x requested some taken
    obtain ⟨_, eligible, different, _, clear⟩ := accept_eq_ok_iff.1 taken
    obtain ⟨d, member⟩ := List.exists_mem_of_ne_nil _ some
    obtain ⟨rfl, _⟩ := unique?_eq_some different
    have asked := contains_of_mem member
    rw [← contains_unique] at asked
    obtain ⟨e, listed, _⟩ := exists_same_of_contains asked
    obtain ⟨_, o, found, _, unmet⟩ := Node.obstacle?_eq_none_iff.1 (clear e listed)
    have opened := ((open?_eq_some_iff
      (h.progress.documents_distinct fresh.documents_distinct) e o).1 found).1
    rw [exhausted x.actor eligible o opened] at unmet
    contradiction
  · intro refused v eligible o member
    rw [← Bool.not_eq_false]
    intro unmet
    obtain ⟨known, actors, short⟩ := h.progress.mem_opened member
    rw [actors] at unmet
    refine refused ⟨v, n.tag, [o.id]⟩ [o.id] (List.cons_ne_nil _ _)
      (h.accept_eq_ok fresh eligible (List.nodup_singleton _) fun d listed => ?_)
    obtain rfl := List.mem_singleton.1 listed
    exact ⟨known, short, unmet⟩

end Follows

end Node

/-- A run is blocked exactly where it has come to an exhausted node. -/
theorem isBlocked_iff {start a : Automaton} (fresh : AllFresh start) {deeds : List Deed}
    (run : Run start deeds a) :
    a.IsBlocked ↔ ∃ n, a.nodes[a.landing]? = some n ∧ n.IsExhausted := by
  rw [Automaton.IsBlocked, Automaton.isTerminated_iff]
  cases here : a.nodes[a.landing]? with
  | none => simp
  | some n =>
    obtain ⟨s, emitted, follows⟩ := (run.follows fresh).start_of_node here
    have refused := follows.isExhausted_iff (fresh.at emitted)
    constructor
    · rintro ⟨_, idle⟩
      refine ⟨n, rfl, refused.2 fun x requested some taken => ?_⟩
      have accepted := Automaton.transition_eq_ok_iff.2 ⟨n, requested, here, taken, rfl⟩
      exact idle ⟨x, _, some, accepted⟩
    · rintro ⟨m, same, exhausted⟩
      obtain rfl := Option.some.inj same
      refine ⟨Option.some_ne_none n, ?_⟩
      rintro ⟨x, t, some, accepted⟩
      obtain ⟨m, requested, here', taken, _⟩ := Automaton.transition_eq_ok_iff.1 accepted
      obtain rfl := Option.some.inj (here.symm.trans here')
      exact refused.1 exhausted x requested some taken

end SignatureRouting
