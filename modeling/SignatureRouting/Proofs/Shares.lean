import Mathlib.Data.List.Induction
import SignatureRouting.Proofs.Played

/-!
Sharing out documents among actors so that a node gets stuck. Each of some actors takes as many
documents as the quota, in windows that start one document later from actor to actor and wrap
around, and the first takes whatever no window covers. Then every document is taken by somebody and
by no more actors than the quota; and an actor who has taken a share is done.
-/
namespace SignatureRouting
open Value

/-- How far a window that starts at one of so many places has to reach to cover another. -/
def gap (places i j : Nat) : Nat := if i ≤ j then j - i else j + places - i

/-- Whether an actor takes a document: it lies in the window of the actor, or in nobody's. -/
def takes (actors width places i j : Nat) : Bool :=
  decide (gap places i j < width) ||
    (i == 0 && (List.range actors).all fun k => decide (width ≤ gap places k j))

theorem le_countP_of_injection {width count : Nat} {p : Nat → Bool} {f : Nat → Nat}
    (inside : ∀ t < width, f t < count ∧ p (f t) = true)
    (injective : ∀ s < width, ∀ t < width, f s = f t → s = t) :
    width ≤ (List.range count).countP p := by
  have distinct : ((List.range width).map f).Nodup := by
    refine List.Nodup.map_on (fun s hs t ht same => ?_) List.nodup_range
    exact injective s (List.mem_range.1 hs) t (List.mem_range.1 ht) same
  have within : (List.range width).map f ⊆ (List.range count).filter p := by
    intro j member
    obtain ⟨t, among, rfl⟩ := List.mem_map.1 member
    obtain ⟨fits, meets⟩ := inside t (List.mem_range.1 among)
    exact List.mem_filter.2 ⟨List.mem_range.2 fits, meets⟩
  have fits := (distinct.subperm within).length_le
  rwa [List.length_map, List.length_range, ← List.countP_eq_length_filter] at fits

theorem countP_le_of_injection {width count : Nat} {p : Nat → Bool} {f : Nat → Nat}
    (inside : ∀ i < count, p i = true → f i < width)
    (injective : ∀ i < count, ∀ j < count, f i = f j → i = j) :
    (List.range count).countP p ≤ width := by
  have distinct : (((List.range count).filter p).map f).Nodup := by
    refine List.Nodup.map_on (fun i hi j hj same => ?_) (List.nodup_range.filter p)
    exact injective i (List.mem_range.1 (List.mem_filter.1 hi).1) j
      (List.mem_range.1 (List.mem_filter.1 hj).1) same
  have within : ((List.range count).filter p).map f ⊆ List.range width := by
    intro t member
    obtain ⟨i, among, rfl⟩ := List.mem_map.1 member
    obtain ⟨listed, meets⟩ := List.mem_filter.1 among
    exact List.mem_range.2 (inside i (List.mem_range.1 listed) meets)
  have fits := (distinct.subperm within).length_le
  rwa [List.length_map, List.length_range, ← List.countP_eq_length_filter] at fits

section Windows
variable {actors width places : Nat} (fewer : actors ≤ places)
include fewer

theorem width_le_taken (fits : width ≤ places) {i : Nat} (actor : i < actors) :
    width ≤ (List.range places).countP (takes actors width places i) := by
  refine le_countP_of_injection (f := fun t => if i + t < places then i + t else i + t - places)
    (fun t short => ?_) (fun s hs t ht same => ?_)
  · have reach : gap places i (if i + t < places then i + t else i + t - places) = t := by
      unfold gap
      split <;> split <;> omega
    refine ⟨by split <;> omega, ?_⟩
    rw [takes, reach, decide_eq_true short, Bool.true_or]
  · split at same <;> split at same <;> omega

theorem takers_between (some : 0 < actors) (positive : 0 < width) (j : Nat) :
    1 ≤ (List.range actors).countP (fun i => takes actors width places i j) ∧
      (List.range actors).countP (fun i => takes actors width places i j) ≤ width := by
  by_cases covered : ∃ k < actors, gap places k j < width
  · obtain ⟨k, actor, reach⟩ := covered
    have windows : ∀ i, takes actors width places i j = decide (gap places i j < width) := by
      intro i
      have somebody :
          (List.range actors).all (fun k => decide (width ≤ gap places k j)) = false := by
        rw [List.all_eq_false]
        exact ⟨k, List.mem_range.2 actor, by simpa using reach⟩
      rw [takes, somebody, Bool.and_false, Bool.or_false]
    simp only [windows]
    constructor
    · exact List.countP_pos_iff.2 ⟨k, List.mem_range.2 actor, decide_eq_true reach⟩
    · refine countP_le_of_injection (f := fun i => gap places i j) (fun i _ within => ?_)
        (fun i hi l hl same => ?_)
      · exact of_decide_eq_true within
      · dsimp only [gap] at same
        split at same <;> split at same <;> omega
  · have nobody : ∀ k < actors, width ≤ gap places k j := by
      intro k actor
      by_contra reach
      exact covered ⟨k, actor, by omega⟩
    have first : ∀ i ∈ List.range actors, takes actors width places i j = (i == 0) := by
      intro i member
      have outside := nobody i (List.mem_range.1 member)
      have all : (List.range actors).all (fun k => decide (width ≤ gap places k j)) = true := by
        rw [List.all_eq_true]
        exact fun k among => decide_eq_true (nobody k (List.mem_range.1 among))
      rw [takes, all, Bool.and_true, decide_eq_false (by omega), Bool.false_or]
    have one : (List.range actors).countP (fun i => takes actors width places i j) = 1 := by
      rw [List.countP_congr (fun i member => by rw [first i member]), ← List.count_eq_countP,
        List.count_eq_one_of_mem List.nodup_range (List.mem_range.2 some)]
    omega

end Windows

def placeOf (ds : List Value) (d : Value) : Nat := (ds.map key).idxOf d.key

theorem map_placeOf {ds : List Value} (once : Distinct ds) :
    ds.map (placeOf ds) = List.range ds.length := by
  refine List.ext_getElem (by simp) fun i inside _ => ?_
  rw [List.length_map] at inside
  rw [List.getElem_map, List.getElem_range, placeOf]
  have listed : i < (ds.map key).length := by rwa [List.length_map]
  have at_key : ds[i].key = (ds.map key).get ⟨i, listed⟩ := by simp
  rw [at_key]
  exact List.Nodup.idxOf_getElem once i listed

def shareOf (ds : List Value) (actors width i : Nat) : List Value :=
  ds.filter fun d => takes actors width ds.length i (placeOf ds d)

def shares (owners ds : List Value) (width : Nat) : List (Value × List Value) :=
  owners.zipIdx.map fun p => (p.1, shareOf ds owners.length width p.2)

def takersOf (shares : List (Value × List Value)) (d : Value) : List Value :=
  (shares.filter fun p => p.2.contains d).map (·.1)

theorem map_fst_shares (owners ds : List Value) (width : Nat) :
    (shares owners ds width).map (·.1) = owners := by
  rw [shares, List.map_map]
  exact List.zipIdx_map_fst ..

theorem share_of_mem {owners ds : List Value} {width : Nat} (once : Distinct ds)
    (fewer : owners.length ≤ ds.length) (fits : width ≤ ds.length) {p : Value × List Value}
    (member : p ∈ shares owners ds width) : p.2.Sublist ds ∧ width ≤ p.2.length := by
  obtain ⟨⟨v, i⟩, listed, rfl⟩ := List.mem_map.1 member
  have actor : i < owners.length := List.snd_lt_of_mem_zipIdx listed
  refine ⟨List.filter_sublist, ?_⟩
  have taken := width_le_taken fewer fits actor
  rwa [← map_placeOf once, List.countP_map, List.countP_eq_length_filter] at taken

theorem takersOf_between {owners ds : List Value} {width : Nat}
    (fewer : owners.length ≤ ds.length) (some : 0 < owners.length) (positive : 0 < width)
    {d : Value} (among : ds.contains d = true) : 1 ≤ (takersOf (shares owners ds width) d).length ∧
      (takersOf (shares owners ds width) d).length ≤ width := by
  have asked : ∀ i, (shareOf ds owners.length width i).contains d =
      takes owners.length width ds.length i (placeOf ds d) := by
    intro i
    rw [shareOf, contains_filter, among, Bool.true_and]
    intro e _ same
    rw [placeOf, placeOf, (beq_iff_key_eq d e).1 same]
  have count : (takersOf (shares owners ds width) d).length =
      (List.range owners.length).countP fun i =>
        takes owners.length width ds.length i (placeOf ds d) := by
    rw [takersOf, List.length_map, ← List.countP_eq_length_filter, shares, List.countP_map,
      List.range_eq_range', ← List.zipIdx_map_snd 0 owners, List.countP_map]
    refine List.countP_congr fun p _ => ?_
    simp only [Function.comp_apply, asked]
  rw [count]
  exact takers_between fewer some positive _

theorem takersOf_sublist (owners ds : List Value) (width : Nat) (d : Value) :
    (takersOf (shares owners ds width) d).Sublist owners := by
  have sub := List.Sublist.map (·.1) (List.filter_sublist (l := shares owners ds width)
    (p := fun p => p.2.contains d))
  rwa [map_fst_shares] at sub

theorem takersOf_outside {owners ds : List Value} {width : Nat} {d : Value}
    (outside : ds.contains d = false) : takersOf (shares owners ds width) d = [] := by
  rw [takersOf, List.map_eq_nil_iff, List.filter_eq_nil_iff]
  intro p member
  obtain ⟨_, _, rfl⟩ := List.mem_map.1 member
  rw [shareOf, not_contains_of_sublist List.filter_sublist outside]
  exact Bool.false_ne_true

namespace Node

theorem takersOf_append (taken : List (Value × List Value)) (p : Value × List Value) :
    takersOf (taken ++ [p]) = actedAfter (takersOf taken) p.1 p.2 := by
  funext d
  rw [takersOf, actedAfter, List.filter_append, List.map_append]
  cases asked : p.2.contains d <;> simp [takersOf, asked]

theorem exists_played_shares {start : Node} (fresh : start.Fresh) {q : Nat}
    (needs : start.quota.Needs q) {taken : List (Value × List Value)}
    (owners : Distinct (taken.map (·.1)))
    (known : ∀ p ∈ taken, start.actors.contains p.1 = true) (some : 1 ≤ q)
    (fair : ∀ p ∈ taken, p.2.Sublist start.documents ∧ q ≤ p.2.length)
    (bounded : ∀ d ∈ start.documents, (takersOf taken d).length ≤ q) :
    ∃ n, Played start (takersOf taken) (taken.map (·.1)) n := by
  induction taken using List.reverseRecOn with
  | nil => exact ⟨start, played_fresh fresh⟩
  | append_singleton taken p ih =>
    rw [List.forall_mem_append, List.forall_mem_singleton] at known fair
    rw [takersOf_append] at bounded ⊢
    rw [List.map_append, List.map_singleton] at owners ⊢
    obtain ⟨absent, _⟩ := distinct_cons.1 (owners.perm (List.perm_append_singleton ..).symm)
    obtain ⟨n, played⟩ := ih (owners.sublist (List.sublist_append_left _ _)) known.1 fair.1
      fun d listed => Nat.le_trans (length_le_actedAfter ..) (bounded d listed)
    have once : Distinct p.2 := fresh.documents_distinct.sublist fair.2.1
    refine played.retire fresh known.2 absent ?_ once (fun d member => ⟨?_, ?_⟩) ?_
    · rw [← List.length_pos_iff]
      omega
    · have listed := fair.2.1.subset member
      have room := bounded d listed
      rw [actedAfter, if_pos (contains_of_mem member), List.length_append,
        List.length_singleton] at room
      exact mem_pending.2 ⟨listed, needs.unreached (by omega)⟩
    · exact not_contains_of_sublist (List.filter_sublist.map _) absent
    · rw [needs, decide_eq_true fair.2.2]

theorem exists_played_windows {start : Node} (fresh : start.Fresh) {q : Nat}
    (needs : start.quota.Needs q) (positive : 1 ≤ q) {owners ds : List Value}
    (once : Distinct owners) (known : ∀ v ∈ owners, start.actors.contains v = true)
    (sub : ds.Sublist start.documents) (some : 0 < owners.length)
    (fewer : owners.length ≤ ds.length) (fits : q ≤ ds.length) :
    ∃ n, Played start (takersOf (shares owners ds q)) owners n := by
  have fair : ∀ p ∈ shares owners ds q, p.2.Sublist start.documents ∧ q ≤ p.2.length := by
    intro p member
    have share := share_of_mem (fresh.documents_distinct.sublist sub) fewer fits member
    exact ⟨share.1.trans sub, share.2⟩
  have bounded : ∀ d ∈ start.documents, (takersOf (shares owners ds q) d).length ≤ q := by
    intro d _
    cases among : ds.contains d with
    | true => exact (takersOf_between fewer some positive among).2
    | false => simp [takersOf_outside among]
  have owned : ∀ p ∈ shares owners ds q, start.actors.contains p.1 = true := by
    intro p member
    refine known p.1 ?_
    rw [← map_fst_shares owners ds q]
    exact List.mem_map_of_mem member
  obtain ⟨n, played⟩ := exists_played_shares fresh needs (by rwa [map_fst_shares]) owned positive
    fair bounded
  rw [map_fst_shares] at played
  exact ⟨n, played⟩

end Node
end SignatureRouting
