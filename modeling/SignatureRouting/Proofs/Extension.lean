import SignatureRouting.Proofs.Continuation

/-!
Steps that are appended to a workflow while it runs. An action lands on the first node that is not
finished, and nodes after that one are not looked at. So the longer workflow does whatever the
shorter one does, with the same cursor and the appended nodes left as they are, until the shorter
one has come to its end. From then on that one refuses everything.
-/
namespace SignatureRouting
open Value

namespace Automaton

def appendAll? (a : Automaton) (specs : List NodeSpec) : Except ShapeError Automaton :=
  specs.foldlM append? a

structure Lengthens (rest : List Node) (short long : Automaton) : Prop where
  nodes : long.nodes = short.nodes ++ rest
  index : long.index = short.index

theorem append?_of_inside {a : Automaton} (inside : a.index ≤ a.nodes.length) {spec : NodeSpec}
    {node : Node} (valid : spec.node? = .ok node) : a.append? spec = .ok (a.append node) := by
  have longer : a.index ≤ (a.nodes ++ [node]).length := by
    simp only [List.length_append, List.length_singleton]
    omega
  simp [append?, append, valid, bind, Except.bind, at?_of_le longer]

theorem appendAll?_of_inside {a : Automaton} (inside : a.index ≤ a.nodes.length)
    {specs : List NodeSpec} (valid : ∀ spec ∈ specs, ∃ node, spec.node? = .ok node) :
    ∃ b, a.appendAll? specs = .ok b ∧ Lengthens (specs.map NodeSpec.node) a b := by
  induction specs generalizing a with
  | nil => exact ⟨a, rfl, by simp, rfl⟩
  | cons spec rest ih =>
    obtain ⟨first, later⟩ := List.forall_mem_cons.1 valid
    obtain ⟨node, made⟩ := first
    have same : node = spec.node := by
      unfold NodeSpec.node? at made
      split at made
      · exact (Except.ok.inj made).symm
      · contradiction
    have longer : (a.append node).index ≤ (a.append node).nodes.length := by
      simp only [append, List.length_append, List.length_singleton]
      omega
    obtain ⟨b, appended, lengthens⟩ := ih longer later
    refine ⟨b, ?_, ?_, lengthens.index⟩
    · simpa [appendAll?, append?_of_inside inside made, bind, Except.bind] using appended
    · simp [lengthens.nodes, append, same]

section Lengthens
variable {rest : List Node} {short long : Automaton} (lengthens : Lengthens rest short long)
include lengthens

theorem Lengthens.landing {n : Node} (here : short.nodes[short.landing]? = some n) :
    long.landing = short.landing ∧ long.nodes[short.landing]? = some n := by
  have inside : short.landing < short.nodes.length := (List.getElem?_eq_some_iff.1 here).1
  have reached : short.index ≤ short.nodes.length :=
    Nat.le_trans short.index_le_landing (Nat.le_of_lt inside)
  have stops : ((short.nodes.drop short.index).takeWhile Node.isFinished).length ≠
      (short.nodes.drop short.index).length := by
    unfold Automaton.landing at inside
    rw [List.length_drop]
    omega
  constructor
  · rw [Automaton.landing, Automaton.landing, lengthens.nodes, lengthens.index,
      List.drop_append_of_le_length reached, List.takeWhile_append, if_neg stops]
  · rw [lengthens.nodes, List.getElem?_append_left inside, here]

theorem Lengthens.advance {n : Node} (here : short.nodes[short.landing]? = some n) (m : Node) :
    Lengthens rest (short.advance m) (long.advance m) := by
  have inside : short.landing < short.nodes.length := (List.getElem?_eq_some_iff.1 here).1
  have landed := (lengthens.landing here).1
  constructor
  · simp only [Automaton.advance, landed, lengthens.nodes, List.set_append_left _ _ inside]
  · simp only [Automaton.advance, landed]

theorem Lengthens.transition {n : Node} (here : short.nodes[short.landing]? = some n) (x : Action) :
    (∃ e, short.transition x = .error e ∧ long.transition x = .error e) ∨
      ∃ t u, short.transition x = .ok t ∧ long.transition x = .ok u ∧
        Lengthens rest t.result u.result := by
  obtain ⟨landed, there⟩ := lengthens.landing here
  rw [← landed] at there
  exact transition_related here there (lengthens.advance here) x

theorem Lengthens.attemptAll (attempts : List Attempt)
    (running : some .terminated ∉ (short.attemptAll attempts).1) :
    (long.attemptAll attempts).1 = (short.attemptAll attempts).1 ∧
      Lengthens rest (short.attemptAll attempts).2 (long.attemptAll attempts).2 := by
  induction attempts generalizing short long with
  | nil => exact ⟨rfl, lengthens⟩
  | cons x later ih =>
    cases here : short.nodes[short.landing]? with
    | none =>
      rw [attemptAll_of_refused (attempt_terminated_iff.2 here)] at running
      simp at running
    | some n =>
      rcases attempt_related (R := Lengthens rest) (lengthens.transition here) x with
        ⟨e, first, second⟩ | ⟨a, b, first, second, moved⟩
      · rw [attemptAll_of_refused first] at running ⊢
        rw [attemptAll_of_refused second]
        obtain ⟨same, still⟩ := ih lengthens fun ended => running (List.mem_cons_of_mem _ ended)
        exact ⟨congrArg (some e :: ·) same, still⟩
      · rw [attemptAll_of_accepted first] at running ⊢
        rw [attemptAll_of_accepted second]
        obtain ⟨same, still⟩ := ih moved fun ended => running (List.mem_cons_of_mem _ ended)
        exact ⟨congrArg (none :: ·) same, still⟩

end Lengthens

theorem attemptAll_ends {a : Automaton} {attempts : List Attempt}
    (ended : some .terminated ∈ (a.attemptAll attempts).1) :
    ∃ before after, attempts = before ++ after ∧ after ≠ [] ∧
      some .terminated ∉ (a.attemptAll before).1 ∧
      ∀ x, (a.attemptAll before).2.attempt x = .error .terminated := by
  induction attempts generalizing a with
  | nil => simp [attemptAll] at ended
  | cons x later ih =>
    cases outcome : a.attempt x with
    | error e =>
      by_cases at_end : e = .terminated
      · subst at_end
        have nowhere := attempt_terminated_iff.1 outcome
        exact ⟨[], x :: later, rfl, List.cons_ne_nil x later, by simp [attemptAll],
          fun _ => attempt_terminated_iff.2 nowhere⟩
      · have other : some .terminated ≠ some e := fun same => at_end (Option.some.inj same).symm
        rw [attemptAll_of_refused outcome] at ended
        have among := (List.mem_cons.1 ended).resolve_left other
        obtain ⟨before, after, parts, more, running, refused⟩ := ih among
        refine ⟨x :: before, after, by simp [parts], more, ?_, ?_⟩
        · rw [attemptAll_of_refused outcome, List.mem_cons, not_or]
          exact ⟨other, running⟩
        · rw [attemptAll_of_refused outcome]
          exact refused
    | ok b =>
      rw [attemptAll_of_accepted outcome] at ended
      have among := (List.mem_cons.1 ended).resolve_left (Option.some_ne_none _)
      obtain ⟨before, after, parts, more, running, refused⟩ := ih among
      refine ⟨x :: before, after, by simp [parts], more, ?_, ?_⟩
      · rw [attemptAll_of_accepted outcome, List.mem_cons, not_or]
        exact ⟨Option.some_ne_none _, running⟩
      · rw [attemptAll_of_accepted outcome]
        exact refused

/-- Nodes that are appended to a workflow are not noticed by any number of attempts before one finds
the shorter workflow at its end. Up to that one the errors are the same, and every attempt that is
accepted leaves the same cursor and the appended nodes untouched behind the others. -/
theorem appended_steps_unseen {a : Automaton} (inside : a.index ≤ a.nodes.length)
    {specs : List NodeSpec} (valid : ∀ spec ∈ specs, ∃ node, spec.node? = .ok node) :
    ∃ b, a.appendAll? specs = .ok b ∧ Lengthens (specs.map NodeSpec.node) a b ∧
      ∀ attempts,
        (some .terminated ∉ (a.attemptAll attempts).1 →
          (b.attemptAll attempts).1 = (a.attemptAll attempts).1 ∧
          (b.attemptAll attempts).2.nodes =
            (a.attemptAll attempts).2.nodes ++ specs.map NodeSpec.node ∧
          (b.attemptAll attempts).2.index = (a.attemptAll attempts).2.index) ∧
        (some .terminated ∈ (a.attemptAll attempts).1 →
          ∃ before after, attempts = before ++ after ∧ after ≠ [] ∧
            some .terminated ∉ (a.attemptAll before).1 ∧
            ∀ x, (a.attemptAll before).2.attempt x = .error .terminated) := by
  obtain ⟨b, appended, lengthens⟩ := appendAll?_of_inside inside valid
  refine ⟨b, appended, lengthens, fun attempts => ⟨fun running => ?_, attemptAll_ends⟩⟩
  obtain ⟨same, still⟩ := lengthens.attemptAll attempts running
  exact ⟨same, still.nodes, still.index⟩

end Automaton

def sendSpec : NodeSpec :=
  ⟨.int 1, .expedition, .text "to", [.int 4], [.int 10, .int 11, .int 12], .int 1⟩

def signing : List Attempt :=
  [⟨.int 1, .text "cosign", .list [.int 10, .int 11]⟩,
    ⟨.int 1, .text "cosign", .list [.int 12]⟩,
    ⟨.int 2, .text "cosign", .list [.int 10, .int 12]⟩,
    ⟨.int 3, .text "cosign", .list [.int 11, .int 12]⟩]

/-- Signing goes the same way whether or not the documents are to be sent afterwards. Sending them is
what the shorter workflow refuses. -/
theorem appended_steps_unseen_by_signing :
    ∃ b, (⟨[cosignNode], 0⟩ : Automaton).appendAll? [sendSpec] = .ok b ∧
      ((⟨[cosignNode], 0⟩ : Automaton).attemptAll signing).1 =
        [none, some (.notEligible (.int 1)), none, none] ∧
      (b.attemptAll signing).1 = [none, some (.notEligible (.int 1)), none, none] ∧
      (b.attemptAll signing).2.nodes =
        ((⟨[cosignNode], 0⟩ : Automaton).attemptAll signing).2.nodes ++ [sendNode] ∧
      (b.attemptAll signing).2.index = 1 ∧
      ((⟨[cosignNode], 0⟩ : Automaton).attemptAll (signing ++ sending)).1 =
        [none, some (.notEligible (.int 1)), none, none, some .terminated, some .terminated] ∧
      ∃ before after, signing ++ sending = before ++ after ∧ after ≠ [] ∧
        ∀ x, ((⟨[cosignNode], 0⟩ : Automaton).attemptAll before).2.attempt x =
          .error .terminated := by
  have valid : ∀ spec ∈ [sendSpec], ∃ node, spec.node? = .ok node := by
    intro spec listed
    rw [List.mem_singleton.1 listed]
    exact ⟨sendNode, rfl⟩
  have outcomes : ((⟨[cosignNode], 0⟩ : Automaton).attemptAll signing).1 =
    [none, some (.notEligible (.int 1)), none, none] := rfl
  have beyond : ((⟨[cosignNode], 0⟩ : Automaton).attemptAll (signing ++ sending)).1 =
    [none, some (.notEligible (.int 1)), none, none, some .terminated, some .terminated] := rfl
  have arrived : ((⟨[cosignNode], 0⟩ : Automaton).attemptAll signing).2.index = 1 := rfl
  obtain ⟨b, appended, _, unseen⟩ :=
    Automaton.appended_steps_unseen (a := ⟨[cosignNode], 0⟩) (Nat.zero_le _) valid
  obtain ⟨same, nodes, index⟩ := (unseen signing).1 (by simp [outcomes])
  obtain ⟨before, after, parts, more, _, refused⟩ :=
    (unseen (signing ++ sending)).2 (by simp [beyond])
  exact ⟨b, appended, outcomes, same.trans outcomes, nodes, index.trans arrived, beyond,
    before, after, parts, more, refused⟩

end SignatureRouting
