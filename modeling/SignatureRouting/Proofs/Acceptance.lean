import Mathlib.Data.List.TakeWhile
import SignatureRouting.Automaton.Action
import SignatureRouting.Proofs.Recording

/-!
When an action is accepted and what it then leaves, and why it is refused. The action lands on the
first node at or after the cursor that is not finished; no other node changes, and the cursor ends
at that node, or past it if no document is open there any more. Only an automaton without such a
node reports that it has terminated.
-/
namespace SignatureRouting
open Value

namespace Node

/-- Why a node refuses an action. Of its documents the first one that is obstructed counts. -/
inductive Refuses (n : Node) (x : Action) : ActionError → Prop where
  | wrongTag (other : x.tag.equals n.tag = false) : Refuses n x (.wrongTag n.tag x.tag)
  | notEligible (tagged : x.tag.equals n.tag = true) (out : n.isEligible x.actor = false) :
      Refuses n x (.notEligible x.actor)
  | notActionable {front back : List Value} {d : Value} {obstacle : Obstacle}
      (tagged : x.tag.equals n.tag = true) (eligible : n.isEligible x.actor = true)
      (asked : unique x.documents = front ++ d :: back)
      (clear : ∀ e ∈ front, n.obstacle? x.actor e = none)
      (obstructed : n.obstacle? x.actor d = some obstacle) :
      Refuses n x (.notActionable d x.actor obstacle)

theorem checkEach_eq_ok_iff {n : Node} {actor : Value} {documents : List Value} :
    n.checkEach actor documents = .ok () ↔ ∀ d ∈ documents, n.obstacle? actor d = none := by
  induction documents with
  | nil => simp [checkEach]
  | cons d rest ih =>
    rw [checkEach, List.forall_mem_cons]
    cases n.obstacle? actor d with
    | some obstacle => simp
    | none => simp [ih]

theorem accept_eq_ok_iff {n : Node} {x : Action} {requested : List Value} :
    n.accept x = .ok requested ↔ x.tag.equals n.tag = true ∧ n.isEligible x.actor = true ∧
      unique? x.documents = some requested ∧ n.quota.isNumber = true ∧
        ∀ d ∈ requested, n.obstacle? x.actor d = none := by
  unfold accept
  cases x.tag.equals n.tag with
  | false => simp
  | true =>
    cases n.isEligible x.actor with
    | false => simp
    | true =>
      cases unique? x.documents with
      | none => simp
      | some different =>
        cases n.quota.isNumber with
        | false => simp
        | true =>
          cases checked : n.checkEach x.actor different with
          | ok u =>
            have clear := checkEach_eq_ok_iff.1 checked
            simp only [Except.map, checked, Bool.not_true, Bool.false_eq_true, if_false, if_true,
              Except.ok.injEq, Option.some.injEq, true_and]
            exact ⟨fun same => ⟨same, same ▸ clear⟩, And.left⟩
          | error e =>
            simp only [Except.map, checked, Bool.not_true, Bool.false_eq_true, if_false, if_true,
              reduceCtorEq, Option.some.injEq, true_and, false_iff, not_and]
            rintro rfl clear
            rw [checkEach_eq_ok_iff.2 clear] at checked
            contradiction

theorem checkEach_eq_error_iff {n : Node} {v : Value} {ds : List Value} {e : ActionError} :
    n.checkEach v ds = .error e ↔ ∃ front d back obstacle, ds = front ++ d :: back ∧
      (∀ c ∈ front, n.obstacle? v c = none) ∧ n.obstacle? v d = some obstacle ∧
      e = .notActionable d v obstacle := by
  induction ds with
  | nil => simp [checkEach]
  | cons c rest ih =>
    rw [checkEach]
    cases found : n.obstacle? v c with
    | some obstacle =>
      constructor
      · intro refused
        exact ⟨[], c, rest, obstacle, rfl, by simp, found, (Except.error.inj refused).symm⟩
      · rintro ⟨front, d, back, other, parts, clear, obstructed, rfl⟩
        cases front with
        | nil =>
          obtain ⟨rfl, rfl⟩ := List.cons.inj parts
          rw [found, Option.some.injEq] at obstructed
          rw [obstructed]
        | cons f front =>
          obtain ⟨rfl, rfl⟩ := List.cons.inj parts
          rw [clear c List.mem_cons_self] at found
          contradiction
    | none =>
      refine ih.trans ⟨?_, ?_⟩
      · rintro ⟨front, d, back, obstacle, rfl, clear, refusal⟩
        exact ⟨c :: front, d, back, obstacle, rfl, List.forall_mem_cons.2 ⟨found, clear⟩, refusal⟩
      · rintro ⟨front, d, back, obstacle, parts, clear, obstructed, shape⟩
        cases front with
        | nil =>
          obtain ⟨rfl, rfl⟩ := List.cons.inj parts
          rw [found] at obstructed
          contradiction
        | cons f front =>
          obtain ⟨rfl, rfl⟩ := List.cons.inj parts
          exact ⟨front, d, back, obstacle, rfl, (List.forall_mem_cons.1 clear).2, obstructed,
            shape⟩

theorem accept_eq_error_iff {n : Node} {x : Action} {e : ActionError}
    (countable : n.quota.isNumber = true) (identifiers : ∀ d ∈ x.documents, d.isIdentifier = true) :
    n.accept x = .error e ↔ n.Refuses x e := by
  unfold accept
  cases tagged : x.tag.equals n.tag with
  | false =>
    constructor
    · intro refused
      obtain rfl := Except.error.inj refused
      exact .wrongTag tagged
    · rintro (_ | same | same)
      · rfl
      all_goals
        rw [tagged] at same
        contradiction
  | true =>
    cases eligible : n.isEligible x.actor with
    | false =>
      constructor
      · intro refused
        obtain rfl := Except.error.inj refused
        exact .notEligible tagged eligible
      · rintro (other | _ | ⟨_, may⟩)
        · rw [tagged] at other
          contradiction
        · rfl
        · rw [eligible] at may
          contradiction
    | true =>
      have different : unique? x.documents = some (unique x.documents) := by
        rw [unique?, if_pos (List.all_eq_true.2 identifiers)]
      have checked : (n.checkEach x.actor (unique x.documents)).map (fun _ => unique x.documents) =
          .error e ↔ n.checkEach x.actor (unique x.documents) = .error e := by
        cases n.checkEach x.actor (unique x.documents) <;> simp [Except.map]
      simp only [different, countable, Bool.not_true, Bool.false_eq_true, if_false, if_true]
      rw [checked, checkEach_eq_error_iff]
      constructor
      · rintro ⟨front, d, back, obstacle, asked, clear, obstructed, rfl⟩
        exact .notActionable tagged eligible asked clear obstructed
      · rintro (other | ⟨_, out⟩ | ⟨_, _, asked, clear, obstructed⟩)
        · rw [tagged] at other
          contradiction
        · rw [eligible] at out
          contradiction
        · exact ⟨_, _, _, _, asked, clear, obstructed, rfl⟩

theorem accept_ne_terminated (n : Node) (x : Action) : n.accept x ≠ .error .terminated := by
  unfold accept
  split
  · simp
  · split
    · simp
    · split
      · simp
      · rename_i requested _
        split
        · cases checked : n.checkEach x.actor requested with
          | ok u => simp [Except.map]
          | error e =>
            obtain ⟨_, _, _, _, _, _, _, rfl⟩ := checkEach_eq_error_iff.1 checked
            simp [Except.map]
        · unfold refuseUncounted
          split
          · simp
          · split <;> simp

end Node

namespace Automaton

def advance (a : Automaton) (n : Node) : Automaton :=
  ⟨a.nodes.set a.landing n, if n.opened.isEmpty then a.landing + 1 else a.landing⟩

theorem index_le_landing (a : Automaton) : a.index ≤ a.landing := Nat.le_add_right _ _

theorem finished_before_landing {a : Automaton} {i : Nat} (from_cursor : a.index ≤ i)
    (before : i < a.landing) : ∃ n, a.nodes[i]? = some n ∧ n.isFinished = true := by
  obtain ⟨j, rfl⟩ := Nat.exists_eq_add_of_le from_cursor
  have inside : j < ((a.nodes.drop a.index).takeWhile Node.isFinished).length := by
    unfold landing at before
    omega
  have member := List.getElem_mem inside
  have entry := List.IsPrefix.getElem (List.takeWhile_prefix Node.isFinished) inside
  rw [List.getElem_drop] at entry
  refine ⟨_, List.getElem?_eq_getElem ?_, ?_⟩
  · have short := (List.takeWhile_prefix (l := a.nodes.drop a.index) Node.isFinished).length_le
    rw [List.length_drop] at short
    omega
  · rw [← entry]
    exact List.mem_takeWhile_imp member

theorem unfinished_at_landing {a : Automaton} {n : Node} (here : a.nodes[a.landing]? = some n) :
    n.isFinished = false := by
  rw [← Bool.not_eq_true]
  intro finished
  have rest : (a.nodes.drop a.index).dropWhile Node.isFinished =
      a.nodes.drop a.landing := by
    have split := List.takeWhile_append_dropWhile (p := Node.isFinished) (l := a.nodes.drop a.index)
    have dropped := congrArg
      (List.drop ((a.nodes.drop a.index).takeWhile Node.isFinished).length) split
    rw [List.drop_left, List.drop_drop] at dropped
    exact dropped
  have head : ((a.nodes.drop a.index).dropWhile Node.isFinished).head? = some n := by
    rw [rest, List.head?_drop]
    exact here
  have unfinished := List.head?_dropWhile_not Node.isFinished (a.nodes.drop a.index)
  rw [head] at unfinished
  simp [finished] at unfinished

theorem landing_of_unfinished {a : Automaton} {n : Node} (here : a.nodes[a.index]? = some n)
    (unfinished : n.isFinished = false) : a.landing = a.index := by
  obtain ⟨inside, rfl⟩ := List.getElem?_eq_some_iff.1 here
  rw [landing, List.drop_eq_getElem_cons inside, List.takeWhile_cons, unfinished]
  rfl

theorem pendingWork?_eq_some {a : Automaton} {n : Node} (listed : n.targets ≠ [])
    (here : a.nodes[a.index]? = some n) : a.pendingWork? = some ⟨n.tag, n.targets⟩ := by
  simp only [pendingWork?, current?, here, List.isEmpty_iff, if_neg listed]

theorem transition_eq_ok_iff {a : Automaton} {x : Action} {t : Transition} :
    a.transition x = .ok t ↔ ∃ n requested, a.nodes[a.landing]? = some n ∧
      n.accept x = .ok requested ∧
        t = ⟨a.landing, n.record x.actor requested, requested,
          a.advance (n.record x.actor requested)⟩ := by
  unfold transition
  cases here : a.nodes[a.landing]? with
  | none => simp
  | some n =>
    cases accepted : n.accept x with
    | error e => simp [bind, Except.bind, accepted]
    | ok requested =>
      have inside : a.landing < a.nodes.length := (List.getElem?_eq_some_iff.1 here).1
      have placed : at? (a.nodes.set a.landing (n.record x.actor requested))
          (if (n.record x.actor requested).opened.isEmpty then a.landing + 1 else a.landing : Nat) =
            .ok (a.advance (n.record x.actor requested)) := by
        refine at?_of_le ?_
        rw [List.length_set]
        split <;> omega
      simp only [bind, Except.bind, accepted, placed, Except.mapError, pure, Except.pure,
        Except.ok.injEq, Option.some.injEq]
      constructor
      · rintro rfl
        exact ⟨n, requested, rfl, accepted, rfl⟩
      · rintro ⟨m, same, rfl, accepted', rfl⟩
        rw [accepted, Except.ok.injEq] at accepted'
        rw [accepted']

theorem of_transition {a : Automaton} {x : Action} {t : Transition}
    (accepted : a.transition x = .ok t) :
    ∃ n, a.nodes[t.landing]? = some n ∧ t.node = n.record x.actor t.requested ∧
      n.isEligible x.actor = true ∧ unique? x.documents = some t.requested ∧
        ∀ d ∈ t.requested, n.obstacle? x.actor d = none := by
  obtain ⟨n, requested, here, taken, rfl⟩ := transition_eq_ok_iff.1 accepted
  obtain ⟨_, eligible, different, _, clear⟩ := Node.accept_eq_ok_iff.1 taken
  exact ⟨n, here, rfl, eligible, different, clear⟩

theorem getElem?_result {a : Automaton} {x : Action} {t : Transition}
    (accepted : a.transition x = .ok t) (k : Nat) :
    t.result.nodes[k]? = if t.landing = k then some t.node else a.nodes[k]? := by
  obtain ⟨n, requested, here, _, rfl⟩ := transition_eq_ok_iff.1 accepted
  have inside : a.landing < a.nodes.length := (List.getElem?_eq_some_iff.1 here).1
  simp only [advance, List.getElem?_set, inside, if_true]

theorem index_le_of_transition {a : Automaton} {x : Action} {t : Transition}
    (accepted : a.transition x = .ok t) :
    t.result.nodes.length = a.nodes.length ∧ t.result.index ≤ a.nodes.length := by
  obtain ⟨n, requested, here, _, rfl⟩ := transition_eq_ok_iff.1 accepted
  have inside : a.landing < a.nodes.length := (List.getElem?_eq_some_iff.1 here).1
  simp only [advance, List.length_set, true_and]
  split <;> omega

theorem transition_of_refused {a : Automaton} {x : Action} {n : Node} {e : ActionError}
    (here : a.nodes[a.landing]? = some n) (refused : n.accept x = .error e) :
    a.transition x = .error e := by
  simp only [transition, here, refused, bind, Except.bind]

theorem transition_eq_error_iff {a : Automaton} {x : Action} {e : ActionError} :
    a.transition x = .error e ↔ a.nodes[a.landing]? = none ∧ e = .terminated ∨
      ∃ n, a.nodes[a.landing]? = some n ∧ n.accept x = .error e := by
  cases here : a.nodes[a.landing]? with
  | none => simp [transition, here, eq_comm]
  | some n =>
    cases taken : n.accept x with
    | error e' =>
      rw [transition_of_refused here taken]
      simp [taken]
    | ok requested =>
      rw [transition_eq_ok_iff.2 ⟨n, requested, here, taken, rfl⟩]
      simp [taken]

theorem transition_terminated_iff {a : Automaton} {x : Action} :
    a.transition x = .error .terminated ↔ a.nodes[a.landing]? = none := by
  rw [transition_eq_error_iff]
  constructor
  · rintro (⟨nowhere, _⟩ | ⟨n, _, refused⟩)
    · exact nowhere
    · exact absurd refused (n.accept_ne_terminated x)
  · intro nowhere
    exact Or.inl ⟨nowhere, rfl⟩

end Automaton
end SignatureRouting
