import SignatureRouting.Proofs.Coherence
import SignatureRouting.Proofs.Quota
import SignatureRouting.Storage

/-!
Loading what was stored. An automaton whose nodes have a place, a word for a tag, identifiers for
documents and an integral quota can always be loaded from its own snapshot. Nothing changes by it
but the form of the quotas: a quota comes back as the integer that it equals.
-/
namespace SignatureRouting
open Value

namespace Binary64

theorem withSign_div {negative : Bool} {n t : Nat} {k : Int} (positive : 0 < t)
    (whole : withSign negative n = k * t) : withSign negative (n / t) = k := by
  have nonzero : (t : Int) ≠ 0 := by omega
  unfold withSign at whole ⊢
  cases negative with
  | false =>
    simp only [Bool.false_eq_true, if_false] at whole ⊢
    rw [Int.natCast_ediv, whole, Int.mul_ediv_cancel _ nonzero]
  | true =>
    simp only [if_true] at whole ⊢
    have flipped : (n : Int) = -k * t := by
      rw [Int.neg_mul, ← whole, Int.neg_neg]
    rw [Int.natCast_ediv, flipped, Int.mul_ediv_cancel _ nonzero, Int.neg_neg]

theorem truncate_of_whole {negative : Bool} {m : Nat} {e k : Int}
    (whole : fraction negative m e = (k, 0)) : truncate (.finite negative m e) = some k := by
  have value := lowestTerms_value (withSign negative (m * twoTo e.toNat)) (-e).toNat
  rw [fraction] at whole
  rw [whole] at value
  have exact_value : withSign negative (m * twoTo e.toNat) = k * twoTo (-e).toNat := by
    rw [value, show twoTo 0 = 1 from rfl, Int.natCast_one, Int.mul_one]
  rw [truncate, withSign_div (twoTo_pos _) exact_value]

end Binary64

namespace Value

theorem wholeNumber_of_same_int {v : Value} {k : Int} (same : (v == .int k) = true) :
    v.wholeNumber = .ok k := by
  rw [beq_iff_key_eq] at same
  cases v with
  | null => simp [key] at same
  | bool b => simpa [key, wholeNumber] using same
  | int n => simpa [key, wholeNumber] using same
  | float x =>
    cases x with
    | finite negative m e =>
      simp only [key, List.cons.injEq, Atom.number.injEq, and_true] at same
      have whole : Binary64.fraction negative m e = (k, 0) := Prod.ext same.1 same.2
      rw [wholeNumber, Binary64.truncate_of_whole whole]
      simp
    | infinite negative => simp [key] at same
    | undefined => simp [key] at same
  | text s => simp [key] at same
  | list items => simp [key] at same
  | object fields => simp [key] at same

end Value

namespace Node

structure IsStorable (n : Node) : Prop where
  step : ∃ place : Int, n.step = .int place
  tag : ∃ word : String, n.tag = .text word
  quota : n.quota.IsIntegral
  identifiers : ∀ d ∈ n.documents, d.isIdentifier = true

theorem mapM_collection (lists : List (List Value)) :
    (lists.map Value.list).mapM Value.collection = .ok lists := by
  induction lists with
  | nil => rfl
  | cons l rest ih =>
    rw [List.map_cons, List.mapM_cons, ih]
    rfl

theorem required_toValue (n : Node) :
    n.toValue.required "step_index" = .ok n.step ∧
      n.toValue.required "role_type" = .ok (.text n.role.storedName) ∧
      n.toValue.required "tag" = .ok n.tag ∧ n.toValue.required "aids" = .ok (.list n.actors) ∧
      n.toValue.required "dids" = .ok (.list n.documents) ∧
      n.toValue.required "concerned_actors" = .ok n.quota ∧
      n.toValue.required "working_documents" = .ok (.list (n.progress.map .list)) ∧
      n.toValue.optionalCollection "done_aids" = .ok n.doneActors ∧
      n.toValue.optionalCollection "done_dids" = .ok n.doneDocuments := by
  refine ⟨?_, ?_, ?_, ?_, ?_, ?_, ?_, ?_, ?_⟩ <;> rfl

theorem read_toValue {n : Node} {place : Int} {word : String} (step : n.step = .int place)
    (tag : n.tag = .text word) {k : Int} (same : (n.quota == .int k) = true) :
    Parts.read n.toValue = .ok ⟨n.step, n.role, n.tag, n.actors, n.documents, .int k, n.progress,
      n.doneActors, n.doneDocuments⟩ := by
  have quota := wholeNumber_of_same_int same
  have place_read : (Value.int place).wholeNumber = .ok place := rfl
  have tag_read : (Value.text word).storedTag = .ok word := rfl
  have role : (Value.text n.role.storedName).storedRole = .ok n.role := by
    rw [storedRole, Role.ofStoredName?_storedName]
    rfl
  have progress := mapM_collection n.progress
  obtain ⟨is_step, is_role, is_tag, aids, dids, is_quota, working, done_aids, done_dids⟩ :=
    required_toValue n
  have lists : ∀ items, (Value.list items).collection = .ok items := fun _ => rfl
  simp only [Parts.read, is_step, is_role, is_tag, aids, dids, is_quota, working, done_aids,
    done_dids, lists, quota, role, progress, step, tag, place_read, tag_read, bind,
    Except.bind, pure, Except.pure]

theorem withOpened_parts (n : Node) (identifiers : ∀ d ∈ n.documents, d.isIdentifier = true)
    (quota : Value) :
    withOpened { n with opened := [], quota := quota } n.documents n.progress =
      .ok { n with quota := quota } := by
  have aligned : n.progress.length = n.documents.length := by simp [progress, documents]
  have joined : List.zipWith OpenDocument.mk n.documents n.progress = n.opened := by
    rw [documents, progress, List.zipWith_map, List.zipWith_self]
    exact List.map_id _
  rw [withOpened, if_neg (by simp [aligned]), if_pos (List.all_eq_true.2 identifiers), joined]

theorem ofValue_toValue {n : Node} (storable : n.IsStorable) :
    ∃ k, (n.quota == .int k) = true ∧ ofValue n.toValue = .ok { n with quota := .int k } := by
  obtain ⟨place, step⟩ := storable.step
  obtain ⟨word, tag⟩ := storable.tag
  obtain ⟨k, same⟩ := storable.quota
  refine ⟨k, same, ?_⟩
  have read := read_toValue step tag same
  have opened := withOpened_parts n storable.identifiers (.int k)
  simp only [ofValue, read, Except.mapError, bind, Except.bind, Parts.node?, opened]

end Node

namespace Automaton

/-- Loading changes nothing but the form of the quotas. -/
structure Reloaded (a b : Automaton) : Prop where
  nodes : List.Forall₂ (fun m n => ∃ k, (m.quota == .int k) = true ∧
    n = { m with quota := .int k }) a.nodes b.nodes
  index : b.index = a.index

theorem mapM_ofValue {nodes : List Node} (storable : ∀ n ∈ nodes, n.IsStorable) :
    ∃ loaded, (nodes.map Node.toValue).mapM Node.ofValue = .ok loaded ∧
      List.Forall₂ (fun m n => ∃ k, (m.quota == .int k) = true ∧ n = { m with quota := .int k })
        nodes loaded := by
  rw [List.mapM_map]
  refine exists_mapM fun n member => ?_
  obtain ⟨k, same, loaded⟩ := Node.ofValue_toValue (storable n member)
  exact ⟨_, loaded, k, same, rfl⟩

theorem ofValue_stored {stored : List Value} {nodes : List Node} {index : Nat}
    (read : stored.mapM Node.ofValue = .ok nodes) (inside : index ≤ nodes.length) :
    ofValue (.object [("nodes", .list stored), ("index", .int index)]) = .ok ⟨nodes, index⟩ := by
  have at_nodes : (Value.object [("nodes", .list stored), ("index", .int index)]).required "nodes" =
      .ok (.list stored) := rfl
  have at_index : (Value.object [("nodes", .list stored), ("index", .int index)]).required "index" =
      .ok (.int index) := rfl
  have listed : (Value.list stored).collection = .ok stored := rfl
  simp only [ofValue, at_nodes, at_index, listed, read, at?_of_le inside, wholeNumber,
    Except.mapError, bind, Except.bind]

theorem ofValue_toValue {a : Automaton} (storable : ∀ n ∈ a.nodes, n.IsStorable)
    (inside : a.index ≤ a.nodes.length) :
    ∃ b, ofValue a.toValue = .ok b ∧ Reloaded a b := by
  obtain ⟨loaded, read, alike⟩ := mapM_ofValue storable
  exact ⟨⟨loaded, a.index⟩, ofValue_stored read (alike.length_eq ▸ inside), alike, rfl⟩

end Automaton
end SignatureRouting
