import SignatureRouting.Proofs.Ledger
import SignatureRouting.Proofs.Outcome

/-!
What a request for documents asks for. Of the documents of an action only their names count, not
their order and not how often each is named: two actions that differ in nothing else are both
refused, or both are accepted and come to one automaton. Nothing is assumed about the nodes. Where a
document is open twice, either action means the later place.
-/
namespace SignatureRouting
open Value

namespace Value

def SameMembers (l m : List Value) : Prop := ∀ v, l.contains v = m.contains v

theorem sameMembers_iff {l m : List Value} : SameMembers l m ↔
    (∀ v ∈ l, m.contains v = true) ∧ ∀ v ∈ m, l.contains v = true := by
  constructor
  · intro same
    exact ⟨fun v member => same v ▸ contains_of_mem member,
      fun v member => (same v).symm ▸ contains_of_mem member⟩
  · rintro ⟨right, left⟩ v
    rw [Bool.eq_iff_iff]
    constructor
    · intro found
      obtain ⟨w, member, same⟩ := exists_same_of_contains found
      exact (contains_congr m same).trans (right w member)
    · intro found
      obtain ⟨w, member, same⟩ := exists_same_of_contains found
      exact (contains_congr l same).trans (left w member)

instance (l m : List Value) : Decidable (SameMembers l m) := decidable_of_iff _ sameMembers_iff.symm

namespace SameMembers
variable {l m : List Value} (same : SameMembers l m)
include same

theorem symm : SameMembers m l := fun v => (same v).symm

theorem exists_same {v : Value} (member : v ∈ l) : ∃ w ∈ m, (v == w) = true :=
  exists_same_of_contains (same v ▸ contains_of_mem member)

theorem isIdentifier (identifiers : ∀ v ∈ l, v.isIdentifier = true) :
    ∀ w ∈ m, w.isIdentifier = true := by
  intro w member
  obtain ⟨v, listed, alike⟩ := same.symm.exists_same member
  rw [isIdentifier_congr alike, identifiers v listed]

theorem unique? {r : List Value} (different : unique? l = some r) :
    Value.unique? m = some (unique m) ∧ SameMembers r (unique m) := by
  have identifiers := same.isIdentifier (unique?_eq_some different).2
  constructor
  · rw [Value.unique?, if_pos (List.all_eq_true.2 identifiers)]
  · intro v
    rw [contains_of_unique? different, contains_unique]
    exact same v

end SameMembers

end Value

structure Action.SameRequest (x y : Action) : Prop where
  actor : x.actor = y.actor
  tag : x.tag = y.tag
  documents : SameMembers x.documents y.documents

theorem Action.SameRequest.symm {x y : Action} (same : x.SameRequest y) : y.SameRequest x :=
  ⟨same.actor.symm, same.tag.symm, same.documents.symm⟩

namespace Node

theorem position?_congr (n : Node) {c d : Value} (same : (c == d) = true) :
    n.position? c = n.position? d := by
  have alike : (fun o : OpenDocument => o.id == c) = fun o => o.id == d := by
    funext o
    exact Bool.eq_iff_iff.2
      ⟨fun first => same_trans first same, fun second => same_trans second (same_symm same)⟩
  rw [position?, position?, alike]

theorem obstacle?_congr (n : Node) (actor : Value) {c d : Value} (same : (c == d) = true) :
    n.obstacle? actor c = n.obstacle? actor d := by
  rw [obstacle?, obstacle?, open?, open?, contains_congr _ same, n.position?_congr same]

theorem places_subset (n : Node) {r s : List Value} (same : SameMembers r s) :
    r.filterMap n.position? ⊆ s.filterMap n.position? := by
  intro i place
  obtain ⟨d, asked, found⟩ := List.mem_filterMap.1 place
  obtain ⟨e, named, alike⟩ := same.exists_same asked
  exact List.mem_filterMap.2 ⟨e, named, (n.position?_congr alike).symm.trans found⟩

theorem record_congr (n : Node) (actor : Value) {r s : List Value} (same : SameMembers r s) :
    n.record actor r = n.record actor s := by
  have places : ∀ i, i ∈ r.filterMap n.position? ↔ i ∈ s.filterMap n.position? := fun i =>
    ⟨fun place => n.places_subset same place, fun place => n.places_subset same.symm place⟩
  have marked : n.marked actor (r.filterMap n.position?) =
      n.marked actor (s.filterMap n.position?) := by
    simp only [Node.marked, places]
  rw [record, record, marked]

theorem accept_sameRequest {n : Node} {x y : Action} (same : x.SameRequest y)
    {requested : List Value} (accepted : n.accept x = .ok requested) :
    ∃ others, n.accept y = .ok others ∧ SameMembers requested others := by
  obtain ⟨tagged, eligible, different, countable, clear⟩ := accept_eq_ok_iff.1 accepted
  obtain ⟨listed, alike⟩ := same.documents.unique? different
  rw [same.tag] at tagged
  rw [same.actor] at eligible clear
  refine ⟨_, accept_eq_ok_iff.2 ⟨tagged, eligible, listed, countable, fun d asked => ?_⟩, alike⟩
  obtain ⟨e, named, both⟩ := alike.symm.exists_same asked
  rw [n.obstacle?_congr y.actor both, clear e named]

end Node

namespace Automaton
variable {a b : Automaton} {x y : Action}

theorem transition_sameRequest (same : x.SameRequest y) {t : Transition}
    (accepted : a.transition x = .ok t) : ∃ u, a.transition y = .ok u ∧ u.result = t.result := by
  obtain ⟨n, requested, here, taken, rfl⟩ := transition_eq_ok_iff.1 accepted
  obtain ⟨others, taken', alike⟩ := n.accept_sameRequest same taken
  refine ⟨_, transition_eq_ok_iff.2 ⟨n, others, here, taken', rfl⟩, ?_⟩
  rw [same.actor, n.record_congr y.actor alike]

theorem apply_eq_ok_iff : a.apply x = .ok b ↔ ∃ t, a.transition x = .ok t ∧ t.result = b := by
  rw [apply]
  cases a.transition x <;> simp [Except.map]

theorem apply_sameRequest (same : x.SameRequest y) (applied : a.apply x = .ok b) :
    a.apply y = .ok b := by
  obtain ⟨t, accepted, rfl⟩ := apply_eq_ok_iff.1 applied
  exact apply_eq_ok_iff.2 (transition_sameRequest same accepted)

theorem play_sameRequests {actions others : List Action}
    (same : List.Forall₂ Action.SameRequest actions others) {deeds : List Deed}
    (played : a.play actions = .ok (deeds, b)) : ∃ deeds', a.play others = .ok (deeds', b) := by
  induction same generalizing a deeds with
  | nil => exact ⟨deeds, played⟩
  | cons first _ ih =>
    obtain ⟨t, accepted, rest⟩ := bind_eq_ok.1 played
    obtain ⟨⟨later, last⟩, continued, ended⟩ := bind_eq_ok.1 rest
    obtain ⟨_, rfl⟩ := Prod.mk.inj (Except.ok.inj ended)
    obtain ⟨u, accepted', alike⟩ := transition_sameRequest first accepted
    rw [← alike] at continued
    obtain ⟨later', continued'⟩ := ih continued
    exact ⟨_, bind_eq_ok.2 ⟨u, accepted', bind_eq_ok.2 ⟨_, continued', rfl⟩⟩⟩

/-- What is requested is a set of documents: two actions that name the same ones are both refused,
or both are accepted and leave one automaton. -/
theorem request_is_a_set (same : x.SameRequest y) (a : Automaton) :
    (∃ b, a.apply x = .ok b ∧ a.apply y = .ok b) ∨
      ∃ e f, a.apply x = .error e ∧ a.apply y = .error f := by
  cases first : a.apply x with
  | ok b => exact Or.inl ⟨b, rfl, apply_sameRequest same first⟩
  | error e =>
    cases second : a.apply y with
    | ok b =>
      rw [apply_sameRequest same.symm second] at first
      contradiction
    | error f => exact Or.inr ⟨e, f, rfl, rfl⟩

end Automaton

def openTwice : Automaton :=
  ⟨[{ cosignNode with opened := [.fresh (.int 10), .fresh (.int 11), .fresh (.int 10)] }], 0⟩

theorem request_is_a_set_open_twice :
    ∃ b n, openTwice.apply (cosign 1 [11, 10, 11]) = .ok b ∧
      openTwice.apply (cosign 1 [10, 11]) = .ok b ∧ b.nodes[0]? = some n ∧
      n.opened = [⟨.int 10, []⟩, ⟨.int 11, [.int 1]⟩, ⟨.int 10, [.int 1]⟩] := by
  have accepted : ∃ b n, openTwice.apply (cosign 1 [11, 10, 11]) = .ok b ∧
      b.nodes[0]? = some n ∧ n.opened = [⟨.int 10, []⟩, ⟨.int 11, [.int 1]⟩, ⟨.int 10, [.int 1]⟩] :=
    ⟨_, _, rfl, rfl, rfl⟩
  obtain ⟨b, n, first, here, opened⟩ := accepted
  have same : (cosign 1 [11, 10, 11]).SameRequest (cosign 1 [10, 11]) := ⟨rfl, rfl, by decide⟩
  rcases Automaton.request_is_a_set same openTwice with ⟨c, one, other⟩ | ⟨e, f, refused, _⟩
  · obtain rfl := Except.ok.inj (first.symm.trans one)
    exact ⟨b, n, first, other, here, opened⟩
  · rw [first] at refused
    contradiction

end SignatureRouting
