import Mathlib.Data.List.Nodup
import Mathlib.Data.List.Perm.Subperm
import SignatureRouting.Value

/-!
Lists of values up to sameness. A list is distinct when no two of its values are the same, which is
a fact about its keys. Dropping repetitions makes a list distinct and keeps what it contains.
-/
namespace SignatureRouting.Value

def Distinct (l : List Value) : Prop := (l.map key).Nodup

theorem same_refl (v : Value) : (v == v) = true := (beq_iff_key_eq v v).2 rfl

theorem same_symm {v w : Value} (same : (v == w) = true) : (w == v) = true :=
  (beq_iff_key_eq w v).2 ((beq_iff_key_eq v w).1 same).symm

theorem same_trans {u v w : Value} (first : (u == v) = true) (second : (v == w) = true) :
    (u == w) = true :=
  (beq_iff_key_eq u w).2 (((beq_iff_key_eq u v).1 first).trans ((beq_iff_key_eq v w).1 second))

theorem same_comm (v w : Value) : (v == w) = (w == v) :=
  Bool.eq_iff_iff.2 ⟨same_symm, same_symm⟩

theorem isIdentifier_congr {v w : Value} (same : (v == w) = true) :
    v.isIdentifier = w.isIdentifier := by
  rw [beq_iff_key_eq] at same
  have form : ∀ u : Value, u.isIdentifier = match u.key.head? with
      | some (.list _) => false
      | some (.object _) => false
      | _ => true := by
    intro u
    cases u with
    | float x => cases x <;> rfl
    | _ => simp [isIdentifier, key]
  rw [form v, form w, same]

theorem isUndefined_congr {v w : Value} (same : (v == w) = true) :
    v.isUndefined = w.isUndefined := by
  rw [beq_iff_key_eq] at same
  have form : ∀ u : Value, u.isUndefined = match u.key.head? with
      | some .undefined => true
      | _ => false := by
    intro u
    cases u with
    | float x => cases x <;> rfl
    | _ => simp [isUndefined, key]
  rw [form v, form w, same]

theorem equals_defined (v : Value) {w : Value} (defined : w.isUndefined = false) :
    v.equals w = (v == w) := by
  unfold equals
  cases same : v == w with
  | false => rfl
  | true => rw [isUndefined_congr same, defined]; rfl

theorem contains_congr (l : List Value) {v w : Value} (same : (v == w) = true) :
    l.contains v = l.contains w := by
  rw [Bool.eq_iff_iff, contains_iff_key_mem, contains_iff_key_mem, (beq_iff_key_eq v w).1 same]

theorem contains_of_mem {l : List Value} {v : Value} (member : v ∈ l) : l.contains v = true :=
  (contains_iff_key_mem l v).2 (List.mem_map_of_mem member)

theorem exists_same_of_contains {l : List Value} {v : Value} (found : l.contains v = true) :
    ∃ w ∈ l, (v == w) = true := List.contains_iff_exists_mem_beq.1 found

theorem contains_append (l m : List Value) (v : Value) :
    (l ++ m).contains v = (l.contains v || m.contains v) := by
  rw [Bool.eq_iff_iff, Bool.or_eq_true, contains_iff_key_mem, contains_iff_key_mem,
    contains_iff_key_mem, List.map_append, List.mem_append]

theorem contains_singleton (v w : Value) : [w].contains v = (v == w) := by
  rw [Bool.eq_iff_iff, contains_iff_key_mem, beq_iff_key_eq]
  simp

theorem contains_filter (l : List Value) {p : Value → Bool} {v : Value}
    (alike : ∀ w ∈ l, (v == w) = true → p w = p v) :
    (l.filter p).contains v = (l.contains v && p v) := by
  rw [Bool.eq_iff_iff, Bool.and_eq_true]
  constructor
  · intro found
    obtain ⟨w, member, same⟩ := exists_same_of_contains found
    obtain ⟨listed, passes⟩ := List.mem_filter.1 member
    exact ⟨(contains_congr l same).trans (contains_of_mem listed), alike w listed same ▸ passes⟩
  · rintro ⟨found, passes⟩
    obtain ⟨w, listed, same⟩ := exists_same_of_contains found
    have member : w ∈ l.filter p := List.mem_filter.2 ⟨listed, (alike w listed same).trans passes⟩
    exact (contains_congr _ same).trans (contains_of_mem member)

theorem contains_perm {l m : List Value} (perm : l.Perm m) (v : Value) :
    l.contains v = m.contains v := by
  rw [Bool.eq_iff_iff, contains_iff_key_mem, contains_iff_key_mem]
  exact (perm.map key).mem_iff

theorem not_contains_of_sublist {l m : List Value} (sub : l.Sublist m) {v : Value}
    (absent : m.contains v = false) : l.contains v = false := by
  rw [← Bool.not_eq_true] at absent ⊢
  intro found
  obtain ⟨w, member, same⟩ := exists_same_of_contains found
  exact absent ((contains_congr m same).trans (contains_of_mem (sub.subset member)))

theorem differs_of_mem {l : List Value} {v w : Value} (absent : l.contains v = false)
    (member : w ∈ l) : (w == v) = false := by
  rw [← Bool.not_eq_true]
  intro same
  rw [← contains_congr l same, contains_of_mem member] at absent
  contradiction

theorem distinct_nil : Distinct [] := List.nodup_nil

theorem distinct_cons {v : Value} {l : List Value} :
    Distinct (v :: l) ↔ l.contains v = false ∧ Distinct l := by
  rw [Distinct, List.map_cons, List.nodup_cons, ← contains_iff_key_mem, Bool.not_eq_true]
  rfl

theorem distinct_append {l m : List Value} (left : Distinct l) (right : Distinct m)
    (apart : ∀ v ∈ l, m.contains v = false) : Distinct (l ++ m) := by
  rw [Distinct, List.map_append]
  refine List.Nodup.append left right fun k first second => ?_
  obtain ⟨v, member, rfl⟩ := List.mem_map.1 first
  have absent := apart v member
  rw [← Bool.not_eq_true, contains_iff_key_mem] at absent
  exact absent second

theorem Distinct.apart {l m : List Value} (distinct : Distinct (l ++ m)) {v : Value}
    (member : v ∈ m) : l.contains v = false := by
  rw [Distinct, List.map_append, List.nodup_append] at distinct
  rw [← Bool.not_eq_true, contains_iff_key_mem]
  exact fun among => distinct.2.2 v.key among v.key (List.mem_map_of_mem member) rfl

theorem distinct_append_one {v : Value} {l : List Value} (old : Distinct l)
    (absent : l.contains v = false) : Distinct (l ++ [v]) := by
  refine distinct_append old (List.nodup_singleton _) fun w member => ?_
  rw [contains_singleton]
  exact differs_of_mem absent member

theorem Distinct.sublist {l m : List Value} (distinct : Distinct m) (sub : l.Sublist m) :
    Distinct l := List.Nodup.sublist (sub.map key) distinct

theorem Distinct.perm {l m : List Value} (distinct : Distinct m) (perm : l.Perm m) : Distinct l :=
  (perm.map key).nodup_iff.2 distinct

theorem Distinct.index_eq {l : List Value} (distinct : Distinct l) {i j : Nat} {v w : Value}
    (first : l[i]? = some v) (second : l[j]? = some w) (same : (v == w) = true) : i = j := by
  have keys : (l.map key)[i]? = (l.map key)[j]? := by
    rw [List.getElem?_map, List.getElem?_map, first, second, Option.map_some, Option.map_some,
      (beq_iff_key_eq v w).1 same]
  have inside : i < (l.map key).length := by
    rw [List.length_map]
    exact (List.getElem?_eq_some_iff.1 first).1
  exact (List.getElem?_inj inside distinct).1 keys

theorem Distinct.length_le {l m : List Value} (distinct : Distinct l)
    (within : ∀ v ∈ l, m.contains v = true) : l.length ≤ m.length := by
  have keys : l.map key ⊆ m.map key := by
    intro k member
    obtain ⟨v, listed, rfl⟩ := List.mem_map.1 member
    exact (contains_iff_key_mem m v).1 (within v listed)
  have fits := (List.Nodup.subperm distinct keys).length_le
  rwa [List.length_map, List.length_map] at fits

def Apart (l m : List Value) : Prop := ∀ v ∈ m, l.contains v = false

instance (l m : List Value) : Decidable (Apart l m) :=
  inferInstanceAs (Decidable (∀ v ∈ m, l.contains v = false))

theorem apart_iff {l m : List Value} :
    Apart l m ↔ ∀ v, m.contains v = true → l.contains v = false := by
  constructor
  · intro apart v found
    obtain ⟨w, member, same⟩ := exists_same_of_contains found
    exact (contains_congr l same).trans (apart w member)
  · intro apart v member
    exact apart v (contains_of_mem member)

theorem Apart.symm {l m : List Value} (apart : Apart l m) : Apart m l := by
  intro v member
  by_contra found
  rw [Bool.not_eq_false] at found
  have absent := apart_iff.1 apart v found
  rw [contains_of_mem member] at absent
  contradiction

theorem eq_nil_iff_contains {l : List Value} : l = [] ↔ ∀ v, l.contains v = false := by
  cases l with
  | nil => simp
  | cons w rest =>
    simp only [List.contains_cons, Bool.or_eq_false_iff, reduceCtorEq, false_iff, not_forall]
    exact ⟨w, fun absent => by simp at absent⟩

theorem contains_unique (l : List Value) (v : Value) : (unique l).contains v = l.contains v := by
  induction l with
  | nil => rfl
  | cons w rest ih =>
    have alike : ∀ u ∈ unique rest, (v == u) = true → (!(w == u)) = !(w == v) := by
      intro u _ same
      rw [Bool.eq_iff_iff, Bool.not_eq_true', Bool.not_eq_true', ← Bool.not_eq_true,
        ← Bool.not_eq_true, beq_iff_key_eq, beq_iff_key_eq, (beq_iff_key_eq v u).1 same]
    rw [unique, List.contains_cons, contains_filter _ alike, ih, List.contains_cons,
      same_comm w v]
    cases v == w <;> simp

theorem mem_of_mem_unique {l : List Value} {v : Value} (member : v ∈ unique l) : v ∈ l := by
  induction l with
  | nil => contradiction
  | cons w rest ih =>
    rw [unique, List.mem_cons, List.mem_filter] at member
    rcases member with rfl | ⟨later, _⟩
    · exact List.mem_cons_self
    · exact List.mem_cons_of_mem _ (ih later)

theorem distinct_unique (l : List Value) : Distinct (unique l) := by
  induction l with
  | nil => exact distinct_nil
  | cons w rest ih =>
    refine distinct_cons.2 ⟨?_, ih.sublist List.filter_sublist⟩
    rw [← Bool.not_eq_true]
    intro found
    obtain ⟨u, member, same⟩ := exists_same_of_contains found
    have differ := (List.mem_filter.1 member).2
    rw [same] at differ
    exact Bool.false_ne_true differ

theorem unique?_eq_some {l r : List Value} (h : unique? l = some r) :
    r = unique l ∧ ∀ v ∈ l, v.isIdentifier = true := by
  unfold unique? at h
  split at h
  · rename_i all
    exact ⟨(Option.some.inj h).symm, List.all_eq_true.1 all⟩
  · contradiction

theorem contains_of_unique? {l r : List Value} (h : unique? l = some r) (v : Value) :
    r.contains v = l.contains v := by
  rw [(unique?_eq_some h).1, contains_unique]

theorem eq_nil_iff_of_unique? {l r : List Value} (h : unique? l = some r) : r = [] ↔ l = [] := by
  simp only [eq_nil_iff_contains, contains_of_unique? h]

theorem apart_iff_of_unique? {l m r s : List Value} (first : unique? l = some r)
    (second : unique? m = some s) : Apart r s ↔ Apart l m := by
  simp only [apart_iff, contains_of_unique? first, contains_of_unique? second]

theorem unique_of_distinct {l : List Value} (distinct : Distinct l) : unique l = l := by
  induction l with
  | nil => rfl
  | cons v rest ih =>
    obtain ⟨absent, later⟩ := distinct_cons.1 distinct
    rw [unique, ih later]
    refine congrArg (v :: ·) (List.filter_eq_self.2 fun w member => ?_)
    rw [Bool.not_eq_true', same_comm]
    exact differs_of_mem absent member

theorem unique_filter (l : List Value) {p : Value → Bool}
    (alike : ∀ v w, (v == w) = true → p v = p w) :
    unique (l.filter p) = (unique l).filter p := by
  induction l with
  | nil => rfl
  | cons v rest ih =>
    rw [List.filter_cons, unique, List.filter_cons]
    cases passes : p v with
    | true =>
      rw [if_pos rfl, if_pos rfl, unique, ih, List.filter_comm]
    | false =>
      have rejected : ∀ w ∈ unique rest, p w = true → (!(v == w)) = true := by
        intro w _ kept
        rw [Bool.not_eq_true', ← Bool.not_eq_true]
        intro same
        rw [← alike v w same, passes] at kept
        contradiction
      rw [if_neg Bool.false_ne_true, if_neg Bool.false_ne_true, ih, List.filter_filter]
      refine List.filter_congr fun w member => ?_
      cases kept : p w with
      | false => rfl
      | true => rw [rejected w member kept, Bool.true_and]

theorem unique_append (l m : List Value) : unique (unique l ++ unique m) = unique (l ++ m) := by
  induction l with
  | nil => exact unique_of_distinct (distinct_unique m)
  | cons v rest ih =>
    have alike : ∀ u w, (u == w) = true → (!(v == u)) = !(v == w) := by
      intro u w same
      rw [Bool.eq_iff_iff, Bool.not_eq_true', Bool.not_eq_true', ← Bool.not_eq_true,
        ← Bool.not_eq_true, beq_iff_key_eq, beq_iff_key_eq, (beq_iff_key_eq u w).1 same]
    have twice : ∀ n : List Value, (unique ((unique rest).filter (fun w => !(v == w)) ++ n)).filter
        (fun w => !(v == w)) = (unique (unique rest ++ n)).filter fun w => !(v == w) := by
      intro n
      rw [← unique_filter (_ ++ n) alike, ← unique_filter (_ ++ n) alike, List.filter_append,
        List.filter_append, List.filter_filter]
      simp only [Bool.and_self]
    rw [unique, List.cons_append, List.cons_append, unique, unique, twice, ih]

theorem unique_unique_append (l m : List Value) : unique (unique l ++ m) = unique (l ++ m) := by
  rw [← unique_append, unique_of_distinct (distinct_unique l), unique_append]

theorem unique_append_unique (l m : List Value) : unique (l ++ unique m) = unique (l ++ m) := by
  rw [← unique_append, unique_of_distinct (distinct_unique m), unique_append]

theorem unique_append_of_distinct {l m : List Value} (left : Distinct l) (right : Distinct m) :
    unique (l ++ m) = l ++ m.filter fun v => !l.contains v := by
  induction l with
  | nil => simpa using unique_of_distinct right
  | cons v rest ih =>
    obtain ⟨absent, left⟩ := distinct_cons.1 left
    rw [List.cons_append, unique, ih left, List.filter_append, List.cons_append, List.filter_filter]
    congr 2
    · exact List.filter_eq_self.2 fun w member => by
        rw [Bool.not_eq_true', same_comm]
        exact differs_of_mem absent member
    · refine List.filter_congr fun w _ => ?_
      rw [List.contains_cons, Bool.not_or, same_comm]

end SignatureRouting.Value
