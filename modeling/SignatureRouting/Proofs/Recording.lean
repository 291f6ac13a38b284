import SignatureRouting.Proofs.Quota
import SignatureRouting.Proofs.Sameness

/-!
What recording an action does to a node where no document is open twice. There a document names one
open entry, so the actor is added to exactly the entries whose documents are requested. Nothing is
assumed here about progress or quota.
-/
namespace SignatureRouting
open Value

theorem lastIndex?_eq_some {α : Type} {p : α → Bool} {l : List α} {i : Nat}
    (h : lastIndex? p l = some i) : ∃ x, l[i]? = some x ∧ p x = true := by
  induction l generalizing i with
  | nil => simp [lastIndex?] at h
  | cons x rest ih =>
    rw [lastIndex?] at h
    split at h
    · rename_i j found
      obtain rfl := Option.some.inj h
      exact ih found
    · split at h
      · rename_i meets
        obtain rfl := Option.some.inj h
        exact ⟨x, rfl, meets⟩
      · contradiction

theorem lastIndex?_isSome {α : Type} {p : α → Bool} {l : List α} {x : α} (member : x ∈ l)
    (meets : p x = true) : ∃ i, lastIndex? p l = some i := by
  induction l with
  | nil => simp at member
  | cons y rest ih =>
    rw [lastIndex?]
    rcases List.mem_cons.1 member with rfl | later
    · split
      · exact ⟨_, rfl⟩
      · exact ⟨0, if_pos meets⟩
    · obtain ⟨i, found⟩ := ih later
      exact ⟨i + 1, by rw [found]⟩

namespace Node

theorem place_unique {n : Node} (apart : Distinct n.documents) {i j : Nat} {o p : OpenDocument}
    (hi : n.opened[i]? = some o) (hj : n.opened[j]? = some p) (same : (o.id == p.id) = true) :
    i = j := by
  have inside : i < (n.documents.map key).length := by
    rw [List.length_map, documents, List.length_map]
    exact (List.getElem?_eq_some_iff.1 hi).1
  have at_i : (n.documents.map key)[i]? = some o.id.key := by simp [documents, hi]
  have at_j : (n.documents.map key)[j]? = some p.id.key := by simp [documents, hj]
  refine (List.getElem?_inj inside apart).1 ?_
  rw [at_i, at_j, (beq_iff_key_eq _ _).1 same]

theorem position?_eq_some_iff {n : Node} (apart : Distinct n.documents) (document : Value)
    (i : Nat) :
    n.position? document = some i ↔ ∃ o, n.opened[i]? = some o ∧ (o.id == document) = true := by
  constructor
  · exact lastIndex?_eq_some
  · rintro ⟨o, at_i, same⟩
    obtain ⟨j, found⟩ := lastIndex?_isSome (p := (·.id == document))
      (List.mem_of_getElem? at_i) same
    obtain ⟨p, at_j, same'⟩ := lastIndex?_eq_some found
    obtain rfl := place_unique apart at_i at_j (same_trans same (same_symm same'))
    exact found

theorem open?_eq_some_iff {n : Node} (apart : Distinct n.documents) (document : Value)
    (o : OpenDocument) :
    n.open? document = some o ↔ o ∈ n.opened ∧ (o.id == document) = true := by
  rw [open?, Option.bind_eq_some_iff]
  constructor
  · rintro ⟨i, found, entry⟩
    obtain ⟨p, at_i, same⟩ := (position?_eq_some_iff apart document i).1 found
    obtain rfl := Option.some.inj (at_i.symm.trans entry)
    exact ⟨List.mem_of_getElem? at_i, same⟩
  · rintro ⟨member, same⟩
    obtain ⟨i, at_i⟩ := List.mem_iff_getElem?.1 member
    exact ⟨i, (position?_eq_some_iff apart document i).2 ⟨o, at_i, same⟩, at_i⟩

def touch (actor : Value) (requested : List Value) (o : OpenDocument) : OpenDocument :=
  if requested.contains o.id then o.add actor else o

theorem marked_positions {n : Node} (apart : Distinct n.documents) (actor : Value)
    (requested : List Value) :
    n.marked actor (requested.filterMap n.position?) = n.opened.map (touch actor requested) := by
  refine List.ext_getElem? fun i => ?_
  rw [marked, List.getElem?_mapIdx, List.getElem?_map]
  cases entry : n.opened[i]? with
  | none => rfl
  | some o =>
    have places : i ∈ requested.filterMap n.position? ↔ requested.contains o.id = true := by
      rw [List.mem_filterMap, List.contains_iff_exists_mem_beq]
      constructor
      · rintro ⟨d, member, found⟩
        obtain ⟨p, at_i, same⟩ := (position?_eq_some_iff apart d i).1 found
        obtain rfl := Option.some.inj (at_i.symm.trans entry)
        exact ⟨d, member, same⟩
      · rintro ⟨d, member, same⟩
        exact ⟨d, member, (position?_eq_some_iff apart d i).2 ⟨o, entry, same⟩⟩
    by_cases asked : requested.contains o.id = true
    · simp only [Option.map_some, touch, if_pos (places.2 asked), if_pos asked]
    · simp only [Option.map_some, touch, if_neg (fun h => asked (places.1 h)), if_neg asked]

theorem obstacle?_eq_none_iff {n : Node} {actor document : Value} :
    n.obstacle? actor document = none ↔
      n.doneDocuments.contains document = false ∧ ∃ o, n.open? document = some o ∧
        n.quota.isReachedBy o.actors.length = false ∧ o.actors.contains actor = false := by
  unfold obstacle?
  split
  · rename_i done
    simp [done]
  · rename_i pending
    split
    · rename_i absent
      simp [absent]
    · rename_i o found
      rw [Bool.not_eq_true] at pending
      simp only [found, pending, Option.some.injEq, exists_eq_left', true_and]
      rw [OpenDocument.isComplete, ← isReachedBy]
      cases n.quota.isReachedBy o.actors.length <;> cases o.actors.contains actor <;> simp

theorem contains_touch (actor : Value) (requested : List Value) (o : OpenDocument) (v : Value) :
    (touch actor requested o).actors.contains v =
      (o.actors.contains v || (requested.contains o.id && v == actor)) := by
  unfold touch
  split
  · rename_i asked
    rw [OpenDocument.add, contains_append, contains_singleton, asked, Bool.true_and]
  · rename_i unasked
    rw [Bool.not_eq_true] at unasked
    rw [unasked, Bool.false_and, Bool.or_false]

def retires (n : Node) (actor : Value) (entries : List OpenDocument) : Bool :=
  n.quota.isReachedBy (entries.countP (·.actors.contains actor))

section Record
variable {n : Node} (apart : Distinct n.documents) (actor : Value) (requested : List Value)
include apart

theorem record_opened :
    (n.record actor requested).opened =
      (n.opened.map (touch actor requested)).filter fun o =>
        !n.quota.isReachedBy o.actors.length := by
  rw [← marked_positions apart]
  rfl

theorem record_doneDocuments :
    (n.record actor requested).doneDocuments = n.doneDocuments ++
      ((n.opened.map (touch actor requested)).filter fun o =>
        n.quota.isReachedBy o.actors.length).map (·.id) := by
  rw [← marked_positions apart]
  rfl

theorem record_actors :
    (n.record actor requested).actors =
      if n.retires actor (n.opened.map (touch actor requested)) then
        n.actors.filter fun a => !(a.equals actor)
      else n.actors := by
  rw [← marked_positions apart]
  rfl

theorem record_doneActors :
    (n.record actor requested).doneActors =
      if n.retires actor (n.opened.map (touch actor requested)) then n.doneActors ++ [actor]
      else n.doneActors := by
  rw [← marked_positions apart]
  rfl

end Record

end Node
end SignatureRouting
