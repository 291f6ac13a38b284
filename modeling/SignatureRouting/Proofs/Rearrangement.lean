import SignatureRouting.Proofs.Sameness
import SignatureRouting.Storage

/-!
Objects whose fields stand in another order. As long as no name is given twice the order of the
fields makes no difference: each name is looked up to the same value, so the same snapshot is read,
and the objects are the same value.
-/
namespace SignatureRouting.Value

def NamedOnce (fields : List (String × Value)) : Prop := (fields.map (·.1)).Nodup

section Rearranged
variable {fields others : List (String × Value)}

theorem NamedOnce.eq_of_name (once : NamedOnce fields) {f g : String × Value} (first : f ∈ fields)
    (second : g ∈ fields) (same : f.1 = g.1) : f = g :=
  List.inj_on_of_nodup_map once first second same

theorem NamedOnce.field?_eq_some_iff (once : NamedOnce fields) {name : String} {v : Value} :
    (object fields).field? name = some v ↔ (name, v) ∈ fields := by
  rw [field?]
  constructor
  · intro found
    obtain ⟨f, first, rfl⟩ := Option.map_eq_some_iff.1 found
    have named := List.find?_some first
    rw [beq_iff_eq] at named
    exact named ▸ List.mem_of_find?_eq_some first
  · intro member
    cases first : fields.find? (·.1 == name) with
    | none => exact absurd (beq_self_eq_true name) (List.find?_eq_none.1 first _ member)
    | some f =>
      have named := List.find?_some first
      rw [beq_iff_eq] at named
      have own : f = (name, v) := once.eq_of_name (List.mem_of_find?_eq_some first) member named
      rw [own]
      rfl

variable (once : NamedOnce others) (perm : fields.Perm others)
include once perm

theorem NamedOnce.of_perm : NamedOnce fields := (perm.map Prod.fst).nodup_iff.2 once

theorem field?_perm (name : String) :
    (object fields).field? name = (object others).field? name := by
  refine Option.ext fun v => ?_
  rw [(once.of_perm perm).field?_eq_some_iff, once.field?_eq_some_iff, perm.mem_iff]

theorem required_perm (name : String) :
    (object fields).required name = (object others).required name := by
  rw [required, required, field?_perm once perm]

theorem optionalCollection_perm (name : String) :
    (object fields).optionalCollection name = (object others).optionalCollection name := by
  rw [optionalCollection, optionalCollection, field?_perm once perm]

omit once perm in
theorem keysOfFields_eq (fields : List (String × Value)) :
    keysOfFields fields = fields.map fun f => (f.1, f.2.key) := by
  induction fields with
  | nil => simp [keysOfFields]
  | cons f rest ih =>
    rw [List.map_cons, ← ih]
    simp [keysOfFields]

theorem same_of_perm : (object fields == object others) = true := by
  have keys : (keysOfFields fields).Perm (keysOfFields others) := by
    rw [keysOfFields_eq, keysOfFields_eq]
    exact perm.map _
  have names : ((keysOfFields others).map (·.1)).Nodup := by
    rw [keysOfFields_eq, List.map_map]
    exact once
  have transitive : ∀ a b c : String × List Atom, byName a b = true → byName b c = true →
      byName a c = true := by
    simp only [byName, decide_eq_true_eq]
    exact fun _ _ _ => String.le_trans
  have total : ∀ a b : String × List Atom, (byName a b || byName b a) = true := by
    simp only [byName, Bool.or_eq_true, decide_eq_true_eq]
    exact fun a b => String.le_total a.1 b.1
  -- Keys are sorted by name only, which decides their order because no name comes twice.
  have sorted : (keysOfFields fields).mergeSort byName =
      (keysOfFields others).mergeSort byName := by
    refine List.Perm.eq_of_pairwise (fun a b left right below above => ?_)
      (List.pairwise_mergeSort transitive total _) (List.pairwise_mergeSort transitive total _)
      ((List.mergeSort_perm _ _).trans (keys.trans (List.mergeSort_perm _ _).symm))
    rw [byName, decide_eq_true_eq] at below above
    refine List.inj_on_of_nodup_map names ?_ ?_ (String.le_antisymm below above)
    · exact keys.mem_iff.1 (List.mem_mergeSort.1 left)
    · exact List.mem_mergeSort.1 right
  rw [beq_iff_key_eq, key, key, sorted, perm.length_eq]

end Rearranged

theorem object_congr {fields others : List (String × Value)}
    (alike : List.Forall₂ (fun f g => f.1 = g.1 ∧ (f.2 == g.2) = true) fields others) :
    (object fields == object others) = true := by
  have keys : keysOfFields fields = keysOfFields others := by
    rw [keysOfFields_eq, keysOfFields_eq]
    induction alike with
    | nil => rfl
    | cons first _ ih =>
      rw [List.map_cons, List.map_cons, ih, first.1, (beq_iff_key_eq _ _).1 first.2]
  rw [beq_iff_key_eq, key, key, keys, alike.length_eq]

theorem list_congr {items others : List Value}
    (alike : List.Forall₂ (fun v w => (v == w) = true) items others) :
    (list items == list others) = true := by
  have keys : keyOfItems items = keyOfItems others := by
    induction alike with
    | nil => rfl
    | cons first _ ih => rw [keyOfItems, keyOfItems, ih, (beq_iff_key_eq _ _).1 first]
  rw [beq_iff_key_eq, key, key, keys, alike.length_eq]

end SignatureRouting.Value
