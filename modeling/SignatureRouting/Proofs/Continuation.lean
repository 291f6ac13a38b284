import SignatureRouting.Automaton
import SignatureRouting.Proofs.Ledger

/-!
What a split does to the future of a workflow. The nodes before the split point are all finished,
whatever the automaton was put together from, so an action lands behind them. The second part is
the whole without these nodes: every attempt has the same outcome on both, and the two stay related
in this way from one attempt to the next.
-/
namespace SignatureRouting
open Value

structure Attempt where
  actor : Value
  tag : Value
  documents : Value

namespace Automaton

def attempt (a : Automaton) (x : Attempt) : Except ActionError Automaton :=
  (a.transitionOn x.actor x.tag x.documents).map (·.result)

/-- What one attempt after the other comes to: the error of each one that is refused, which changes
nothing, and the automaton at the end. -/
def attemptAll (a : Automaton) : List Attempt → List (Option ActionError) × Automaton
  | [] => ([], a)
  | x :: rest =>
    match a.attempt x with
    | .ok b => (none :: (b.attemptAll rest).1, (b.attemptAll rest).2)
    | .error e => (some e :: (a.attemptAll rest).1, (a.attemptAll rest).2)

theorem attempt_of_collection {a : Automaton} {x : Attempt} {ds : List Value}
    (listed : x.documents.elements? = some ds) :
    a.attempt x = (a.transition ⟨x.actor, x.tag, ds⟩).map (·.result) := by
  rw [attempt, transitionOn, listed]

theorem attempt_of_no_collection {a : Automaton} {x : Attempt}
    (none : x.documents.elements? = none) :
    a.attempt x = match a.transition ⟨x.actor, x.tag, []⟩ with
      | .error e => .error e
      | .ok _ => .error (.misuse .notCollection) := by
  rw [attempt, transitionOn, none]
  cases a.transition ⟨x.actor, x.tag, []⟩ <;> rfl

section Attempts
variable {a b : Automaton} {x : Attempt} {rest : List Attempt}

theorem attemptAll_of_accepted (accepted : a.attempt x = .ok b) :
    a.attemptAll (x :: rest) = (none :: (b.attemptAll rest).1, (b.attemptAll rest).2) := by
  rw [attemptAll, accepted]

theorem attemptAll_of_refused {e : ActionError} (refused : a.attempt x = .error e) :
    a.attemptAll (x :: rest) = (some e :: (a.attemptAll rest).1, (a.attemptAll rest).2) := by
  rw [attemptAll, refused]

end Attempts

section Related
variable {R : Automaton → Automaton → Prop} {a b : Automaton}

theorem transition_related {n : Node} (here : a.nodes[a.landing]? = some n)
    (there : b.nodes[b.landing]? = some n) (moves : ∀ m, R (a.advance m) (b.advance m))
    (x : Action) :
    (∃ e, a.transition x = .error e ∧ b.transition x = .error e) ∨
      ∃ t u, a.transition x = .ok t ∧ b.transition x = .ok u ∧ R t.result u.result := by
  cases taken : n.accept x with
  | error e =>
    left
    exact ⟨e, transition_of_refused here taken, transition_of_refused there taken⟩
  | ok requested =>
    right
    exact ⟨_, _, transition_eq_ok_iff.2 ⟨n, requested, here, taken, rfl⟩,
      transition_eq_ok_iff.2 ⟨n, requested, there, taken, rfl⟩,
      moves (n.record x.actor requested)⟩

theorem attempt_related (acts : ∀ x : Action,
      (∃ e, a.transition x = .error e ∧ b.transition x = .error e) ∨
        ∃ t u, a.transition x = .ok t ∧ b.transition x = .ok u ∧ R t.result u.result)
    (x : Attempt) :
    (∃ e, a.attempt x = .error e ∧ b.attempt x = .error e) ∨
      ∃ c d, a.attempt x = .ok c ∧ b.attempt x = .ok d ∧ R c d := by
  cases listed : x.documents.elements? with
  | some ds =>
    rw [attempt_of_collection listed, attempt_of_collection listed]
    rcases acts ⟨x.actor, x.tag, ds⟩ with ⟨e, first, second⟩ | ⟨t, u, first, second, related⟩
    · exact Or.inl ⟨e, by rw [first]; rfl, by rw [second]; rfl⟩
    · exact Or.inr ⟨t.result, u.result, by rw [first]; rfl, by rw [second]; rfl, related⟩
  | none =>
    rw [attempt_of_no_collection listed, attempt_of_no_collection listed]
    rcases acts ⟨x.actor, x.tag, []⟩ with ⟨e, first, second⟩ | ⟨t, u, first, second, _⟩
    · exact Or.inl ⟨e, by rw [first], by rw [second]⟩
    · exact Or.inl ⟨.misuse .notCollection, by rw [first], by rw [second]⟩

theorem attemptAll_related (step : ∀ {a b : Automaton} (x : Attempt), R a b →
      (∃ e, a.attempt x = .error e ∧ b.attempt x = .error e) ∨
        ∃ c d, a.attempt x = .ok c ∧ b.attempt x = .ok d ∧ R c d)
    (related : R a b) (attempts : List Attempt) :
    (a.attemptAll attempts).1 = (b.attemptAll attempts).1 ∧
      R (a.attemptAll attempts).2 (b.attemptAll attempts).2 := by
  induction attempts generalizing a b with
  | nil => exact ⟨rfl, related⟩
  | cons x rest ih =>
    rcases step x related with ⟨e, first, second⟩ | ⟨c, d, first, second, moved⟩
    · rw [attemptAll_of_refused first, attemptAll_of_refused second]
      exact ⟨congrArg (some e :: ·) (ih related).1, (ih related).2⟩
    · rw [attemptAll_of_accepted first, attemptAll_of_accepted second]
      exact ⟨congrArg (none :: ·) (ih moved).1, (ih moved).2⟩

end Related

structure Aligned (front : List Node) (part whole : Automaton) : Prop where
  nodes : whole.nodes = front ++ part.nodes
  index : whole.index = front.length + part.index

/-- The whole is some nodes and then the part, and an action lands at the same place of the part. -/
structure Prolongs (front : List Node) (part whole : Automaton) : Prop where
  nodes : whole.nodes = front ++ part.nodes
  landing : whole.landing = front.length + part.landing

theorem Aligned.prolongs {front : List Node} {part whole : Automaton}
    (aligned : Aligned front part whole) : Prolongs front part whole := by
  refine ⟨aligned.nodes, ?_⟩
  have rest : whole.nodes.drop whole.index = part.nodes.drop part.index := by
    rw [aligned.nodes, aligned.index, List.drop_append,
      List.drop_eq_nil_of_le (Nat.le_add_right _ _), List.nil_append, Nat.add_sub_cancel_left]
  rw [landing, landing, rest, aligned.index, Nat.add_assoc]

section Prolongs
variable {front : List Node} {part whole : Automaton} (prolongs : Prolongs front part whole)
include prolongs

theorem Prolongs.getElem?_landing : whole.nodes[whole.landing]? = part.nodes[part.landing]? := by
  rw [prolongs.nodes, prolongs.landing, List.getElem?_append_right (Nat.le_add_right _ _),
    Nat.add_sub_cancel_left]

theorem Prolongs.advance (n : Node) : Aligned front (part.advance n) (whole.advance n) := by
  constructor
  · rw [Automaton.advance, Automaton.advance, prolongs.nodes, prolongs.landing,
      List.set_append_right _ _ (Nat.le_add_right _ _), Nat.add_sub_cancel_left]
  · rw [Automaton.advance, Automaton.advance, prolongs.landing]
    dsimp only
    split <;> omega

theorem Prolongs.transition (x : Action) :
    (∃ e, whole.transition x = .error e ∧ part.transition x = .error e) ∨
      ∃ t u, whole.transition x = .ok t ∧ part.transition x = .ok u ∧
        Aligned front u.result t.result := by
  have landed := prolongs.getElem?_landing
  cases here : part.nodes[part.landing]? with
  | none =>
    rw [here] at landed
    exact Or.inl ⟨.terminated, transition_terminated_iff.2 landed,
      transition_terminated_iff.2 here⟩
  | some n =>
    rw [here] at landed
    exact transition_related (R := fun b c => Aligned front c b) landed here prolongs.advance x

theorem Prolongs.attempt (x : Attempt) :
    (∃ e, whole.attempt x = .error e ∧ part.attempt x = .error e) ∨
      ∃ b c, whole.attempt x = .ok b ∧ part.attempt x = .ok c ∧ Aligned front c b :=
  attempt_related (R := fun b c => Aligned front c b) prolongs.transition x

end Prolongs

theorem Aligned.attemptAll {front : List Node} {part whole : Automaton}
    (aligned : Aligned front part whole) (attempts : List Attempt) :
    (whole.attemptAll attempts).1 = (part.attemptAll attempts).1 ∧
      Aligned front (part.attemptAll attempts).2 (whole.attemptAll attempts).2 :=
  attemptAll_related (R := fun b c => Aligned front c b)
    (fun x together => together.prolongs.attempt x) aligned attempts

/-- Attempts have the same outcomes on both. Until one is accepted both stay as they are, and from
then on the cursors agree. -/
theorem Prolongs.attemptAll {front : List Node} {part whole : Automaton}
    (prolongs : Prolongs front part whole) (attempts : List Attempt) :
    (whole.attemptAll attempts).1 = (part.attemptAll attempts).1 ∧
      (none ∈ (part.attemptAll attempts).1 →
        Aligned front (part.attemptAll attempts).2 (whole.attemptAll attempts).2) ∧
      (none ∉ (part.attemptAll attempts).1 →
        (whole.attemptAll attempts).2 = whole ∧ (part.attemptAll attempts).2 = part) := by
  induction attempts with
  | nil => exact ⟨rfl, fun accepted => absurd accepted List.not_mem_nil, fun _ => ⟨rfl, rfl⟩⟩
  | cons x rest ih =>
    obtain ⟨same, moves, stays⟩ := ih
    rcases prolongs.attempt x with ⟨e, first, second⟩ | ⟨b, c, first, second, moved⟩
    · rw [attemptAll_of_refused first, attemptAll_of_refused second]
      refine ⟨congrArg (some e :: ·) same, fun accepted => moves ?_, fun refused => stays ?_⟩
      · simpa using accepted
      · simpa using refused
    · rw [attemptAll_of_accepted first, attemptAll_of_accepted second]
      obtain ⟨later, aligned⟩ := moved.attemptAll rest
      exact ⟨congrArg (none :: ·) later, fun _ => aligned,
        fun refused => absurd List.mem_cons_self refused⟩

theorem prolongs_of_splitPoint? {a : Automaton} {k : Nat} (point : a.splitPoint? = some k) :
    (a.nodes.take k).length = k ∧ Prolongs (a.nodes.take k) ⟨a.nodes.drop k, 0⟩ a := by
  obtain ⟨node, here, behind⟩ := splitPoint?_eq_some point
  obtain ⟨inside, rfl⟩ := List.getElem?_eq_some_iff.1 here
  have whole : a.nodes = a.nodes.take k ++ a.nodes.drop k := (List.take_append_drop k _).symm
  rcases behind with ⟨empty, rfl⟩ | ⟨_, rfl⟩
  · have cut : (a.nodes.take (a.index + 1)).length = a.index + 1 := List.length_take_of_le inside
    have skipped : (a.nodes[a.index]).isFinished = true := by
      rw [Node.isFinished, empty, Bool.true_or]
    have behind : (⟨a.nodes.drop (a.index + 1), 0⟩ : Automaton).landing =
        ((a.nodes.drop (a.index + 1)).takeWhile Node.isFinished).length := Nat.zero_add _
    refine ⟨cut, whole, ?_⟩
    rw [cut, behind, landing, List.drop_eq_getElem_cons inside, List.takeWhile_cons, skipped,
      if_pos rfl, List.length_cons]
    omega
  · have cut : (a.nodes.take a.index).length = a.index :=
      List.length_take_of_le (Nat.le_of_lt inside)
    exact ⟨cut, Aligned.prolongs ⟨whole, by rw [cut, Nat.add_zero]⟩⟩

theorem splitPoint?_of_find {a : Automaton} {k : Nat} (point : a.findSplitPoint = .ok (some k)) :
    a.splitPoint? = some k := by
  unfold findSplitPoint at point
  split at point
  · exact Except.ok.inj point
  · contradiction

theorem attempt_terminated_iff {a : Automaton} {x : Attempt} :
    a.attempt x = .error .terminated ↔ a.nodes[a.landing]? = none := by
  cases listed : x.documents.elements? with
  | some ds =>
    rw [attempt_of_collection listed, ← transition_terminated_iff (x := ⟨x.actor, x.tag, ds⟩)]
    cases a.transition ⟨x.actor, x.tag, ds⟩ <;> simp [Except.map]
  | none =>
    rw [attempt_of_no_collection listed, ← transition_terminated_iff (x := ⟨x.actor, x.tag, []⟩)]
    cases a.transition ⟨x.actor, x.tag, []⟩ <;> simp

theorem attempt_past_end {a : Automaton} (past : a.nodes.length ≤ a.index) (x : Attempt) :
    a.attempt x = .error .terminated :=
  attempt_terminated_iff.2 (List.getElem?_eq_none (Nat.le_trans past a.index_le_landing))

theorem involved_append (front rest : List Node) (i j k : Nat) :
    (⟨front ++ rest, i⟩ : Automaton).involved = (do
      let first ← (⟨front, j⟩ : Automaton).involved
      let second ← (⟨rest, k⟩ : Automaton).involved
      return unique (first ++ second)) := by
  unfold involved
  rw [List.mapM_append]
  cases front.mapM Node.involved with
  | error m => rfl
  | ok first =>
    cases rest.mapM Node.involved with
    | error m => rfl
    | ok second => exact congrArg Except.ok (by rw [unique_append, List.flatten_append])

/-- The second part of a split has the future of the whole, and the first part has none. -/
theorem split_preserves_future {a : Automaton} {k : Nat}
    (point : a.findSplitPoint = .ok (some k)) :
    ∃ parts, a.split? = some parts ∧ parts.previous.nodes.length = k ∧
      parts.previous.nodes ++ parts.next.nodes = a.nodes ∧
      a.involved = (do
        let first ← parts.previous.involved
        let second ← parts.next.involved
        return unique (first ++ second)) ∧
      (∀ x, parts.previous.attempt x = .error .terminated) ∧
      ∀ attempts,
        (a.attemptAll attempts).1 = (parts.next.attemptAll attempts).1 ∧
        (none ∈ (a.attemptAll attempts).1 →
          (a.attemptAll attempts).2.nodes =
            parts.previous.nodes ++ (parts.next.attemptAll attempts).2.nodes ∧
          (a.attemptAll attempts).2.index = k + (parts.next.attemptAll attempts).2.index) ∧
        (none ∉ (a.attemptAll attempts).1 →
          (a.attemptAll attempts).2 = a ∧ (parts.next.attemptAll attempts).2 = parts.next) := by
  have found := splitPoint?_of_find point
  obtain ⟨cut, prolongs⟩ := prolongs_of_splitPoint? found
  have split : a.split? = some (a.splitAt k) := by rw [split?, found, Option.map_some]
  refine ⟨a.splitAt k, split, cut, split_nodes split, ?_, ?_, fun attempts => ?_⟩
  · have joined := involved_append (a.nodes.take k) (a.nodes.drop k) a.index k 0
    rwa [List.take_append_drop] at joined
  · exact attempt_past_end (Nat.le_of_eq cut)
  · obtain ⟨same, moves, stays⟩ := prolongs.attemptAll attempts
    rw [same]
    refine ⟨rfl, fun accepted => ?_, stays⟩
    obtain ⟨nodes, index⟩ := moves accepted
    rw [cut] at index
    exact ⟨nodes, index⟩

end Automaton

def signedMailing : Automaton :=
  ⟨[{ cosignNode with actors := [], opened := [], doneActors := [.int 1, .int 2, .int 3],
                      doneDocuments := [.int 10, .int 11, .int 12] }, sendNode], 0⟩

def sending : List Attempt :=
  [⟨.int 4, .text "cosign", .list [.int 10]⟩, ⟨.int 4, .text "to", .list [.int 10, .int 12]⟩]

theorem split_preserves_future_past_done :
    ∃ parts, signedMailing.split? = some parts ∧ parts.next = ⟨[sendNode], 0⟩ ∧
      (signedMailing.attemptAll sending).1 =
        [some (.wrongTag (.text "to") (.text "cosign")), none] ∧
      (parts.next.attemptAll sending).1 =
        [some (.wrongTag (.text "to") (.text "cosign")), none] ∧
      (signedMailing.attemptAll sending).2.index =
        1 + (parts.next.attemptAll sending).2.index := by
  obtain ⟨parts, split, _, _, _, _, future⟩ :=
    Automaton.split_preserves_future (a := signedMailing) (k := 1) rfl
  obtain rfl : signedMailing.splitAt 1 = parts := Option.some.inj split
  have outcomes : (signedMailing.attemptAll sending).1 =
    [some (.wrongTag (.text "to") (.text "cosign")), none] := rfl
  obtain ⟨same, moves, _⟩ := future sending
  have accepted : none ∈ (signedMailing.attemptAll sending).1 := by
    rw [outcomes]
    exact List.mem_cons_of_mem _ List.mem_cons_self
  exact ⟨_, split, rfl, outcomes, same ▸ outcomes, (moves accepted).2⟩

end SignatureRouting
