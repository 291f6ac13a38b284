import Mathlib.Order.Nat
import SignatureRouting.Node

/-!
Quotas compared with counts. A quota is any value; a count reaches it when the quota is not above
the count as a number. Once a count reaches a quota every larger count does, and a quota that is
not below one is not reached by nobody. An integral quota is reached from one number on.
-/
namespace SignatureRouting.Value

/-- A value that equals some integer, whatever its form. -/
def IsIntegral (v : Value) : Prop := ∃ n : Int, (v == .int n) = true

def isReachedBy (quota : Value) (count : Nat) : Bool := quota.le (.int count)

theorem atom?_congr {v w : Value} (same : (v == w) = true) : v.atom? = w.atom? := by
  rw [atom?, atom?, (beq_iff_key_eq v w).1 same]

theorem le_congr {v w : Value} (same : (v == w) = true) (u : Value) : v.le u = w.le u := by
  rw [le, le, atom?_congr same]

theorem le_congr_right {v w : Value} (same : (v == w) = true) (u : Value) : u.le v = u.le w := by
  rw [le, le, atom?_congr same]

theorem lt_congr {v w : Value} (same : (v == w) = true) (u : Value) : v.lt u = w.lt u := by
  rw [lt, lt, le_congr same, le_congr_right same]

theorem lt_congr_right {v w : Value} (same : (v == w) = true) (u : Value) : u.lt v = u.lt w := by
  rw [lt, lt, le_congr same, le_congr_right same]

theorem isNumber_congr {v w : Value} (same : (v == w) = true) : v.isNumber = w.isNumber := by
  rw [isNumber, isNumber, atom?_congr same]

theorem isReachedBy_congr {v w : Value} (same : (v == w) = true) (count : Nat) :
    v.isReachedBy count = w.isReachedBy count := le_congr same _

theorem le_int (v : Value) (k : Int) :
    v.le (.int k) = match v.atom? with
      | some (.number n h) => decide (n ≤ k * twoTo h)
      | some (.infinite negative) => negative
      | _ => false := by
  have number : (Value.int k).atom? = some (.number k 0) := by simp [atom?, key]
  unfold Value.le
  rw [number]
  cases v.atom? with
  | none => rfl
  | some a =>
    cases a with
    | number n h => simp only [Atom.le, show twoTo 0 = 1 from rfl, Int.natCast_one, Int.mul_one]
    | _ => rfl

theorem int_le (v : Value) (k : Int) :
    (Value.int k).le v = match v.atom? with
      | some (.number n h) => decide (k * twoTo h ≤ n)
      | some (.infinite negative) => !negative
      | _ => false := by
  have number : (Value.int k).atom? = some (.number k 0) := by simp [atom?, key]
  unfold Value.le
  rw [number]
  cases v.atom? with
  | none => rfl
  | some a =>
    cases a with
    | number n h => simp only [Atom.le, show twoTo 0 = 1 from rfl, Int.natCast_one, Int.mul_one]
    | _ => rfl

theorem twoTo_pos (k : Nat) : 0 < twoTo k := Nat.pow_pos (by decide)

theorem le_int_mono {v : Value} {j k : Int} (le : v.le (.int j) = true) (more : j ≤ k) :
    v.le (.int k) = true := by
  rw [le_int] at le ⊢
  split at le
  · rename_i n h _
    rw [decide_eq_true_eq] at le ⊢
    exact Int.le_trans le (Int.mul_le_mul_of_nonneg_right more (Int.natCast_nonneg _))
  · exact le
  · contradiction

theorem isReachedBy_mono {quota : Value} {j k : Nat} (reached : quota.isReachedBy j = true)
    (more : j ≤ k) : quota.isReachedBy k = true :=
  le_int_mono reached (Int.ofNat_le.2 more)

theorem not_reached_of_le {quota : Value} {j k : Nat} (unreached : quota.isReachedBy k = false)
    (fewer : j ≤ k) : quota.isReachedBy j = false := by
  rw [← Bool.not_eq_true] at unreached ⊢
  exact fun reached => unreached (isReachedBy_mono reached fewer)

theorem not_reached_by_zero {quota : Value} (fits : quota.lt (.int 1) = false) :
    quota.isReachedBy 0 = false := by
  rw [← Bool.not_eq_true]
  intro reached
  have below : quota.le (.int 1) = true := le_int_mono reached (by decide)
  rw [lt, below, Bool.true_and, Bool.not_eq_false'] at fits
  rw [isReachedBy, le_int] at reached
  rw [int_le] at fits
  split at reached
  · rename_i n h atom
    have positive := twoTo_pos h
    simp only [atom, decide_eq_true_eq, Int.natCast_zero, Int.zero_mul, Int.one_mul] at fits reached
    omega
  · rename_i negative atom
    simp [atom, reached] at fits
  · contradiction

theorem int_same_int (m n : Int) : (Value.int m == .int n) = true ↔ m = n := by
  rw [beq_iff_key_eq]
  simp [key]

theorem isReachedBy_of_same_int {quota : Value} {n : Int} (same : (quota == .int n) = true)
    (count : Nat) : quota.isReachedBy count = decide (n ≤ count) := by
  rw [isReachedBy, le_congr same, int_le_int]

/-- A quota that is reached from one number on. -/
def Needs (quota : Value) (least : Nat) : Prop :=
  ∀ count, quota.isReachedBy count = decide (least ≤ count)

theorem needs_of_same_int {quota : Value} {q : Nat} (same : (quota == .int q) = true) :
    quota.Needs q := fun count =>
  (isReachedBy_of_same_int same count).trans (decide_eq_decide.2 Int.ofNat_le)

theorem Needs.unreached {quota : Value} {q : Nat} (needs : quota.Needs q) {count : Nat}
    (fewer : count < q) : quota.isReachedBy count = false := by
  rw [needs, decide_eq_false_iff_not]
  omega

theorem Needs.lt_of_unreached {quota : Value} {q : Nat} (needs : quota.Needs q) {count : Nat}
    (short : quota.isReachedBy count = false) : count < q := by
  rw [needs, decide_eq_false_iff_not] at short
  omega

theorem incomparable_of_unreached {quota : Value} {actors : Nat}
    (unreached : quota.isReachedBy actors = false)
    (most : (Value.int actors).lt quota = false) (k : Int) :
    quota.le (.int k) = false ∧ (Value.int k).le quota = false := by
  rw [isReachedBy] at unreached
  rw [lt, unreached, Bool.not_false, Bool.and_true, int_le] at most
  rw [le_int] at unreached
  rw [le_int, int_le]
  cases atom : quota.atom? with
  | none => exact ⟨rfl, rfl⟩
  | some form =>
    cases form with
    | number n h =>
      simp only [atom, decide_eq_false_iff_not] at most unreached
      omega
    | infinite negative =>
      simp only [atom] at most unreached
      simp [unreached] at most
    | _ => exact ⟨rfl, rfl⟩

theorem needs_or_never {quota : Value} {actors : Nat} (least : quota.lt (.int 1) = false)
    (most : (Value.int actors).lt quota = false) :
    (∀ count, quota.isReachedBy count = false) ∨ ∃ q, quota.Needs q ∧ 1 ≤ q ∧ q ≤ actors := by
  by_cases reached : quota.isReachedBy actors = true
  · obtain ⟨q, first, below⟩ : ∃ q, quota.isReachedBy q = true ∧
        ∀ count < q, quota.isReachedBy count = false := by
      have found : ∃ q, quota.isReachedBy q = true := ⟨actors, reached⟩
      refine ⟨Nat.find found, Nat.find_spec found, fun count fewer => ?_⟩
      exact Bool.eq_false_iff.2 (Nat.find_min found fewer)
    refine Or.inr ⟨q, fun count => ?_, ?_, ?_⟩
    · by_cases enough : q ≤ count
      · rw [isReachedBy_mono first enough, decide_eq_true enough]
      · rw [below count (by omega), decide_eq_false enough]
    · have none_reached := not_reached_by_zero least
      by_contra zero
      obtain rfl : q = 0 := by omega
      rw [first] at none_reached
      contradiction
    · by_contra more
      rw [below actors (by omega)] at reached
      contradiction
  · rw [Bool.not_eq_true] at reached
    exact Or.inl fun count => (incomparable_of_unreached reached most count).1

theorem not_below_of_never {quota : Value} {actors : Nat}
    (most : (Value.int actors).lt quota = false)
    (never : ∀ count, quota.isReachedBy count = false) (k : Int) :
    (Value.int k).lt quota = false := by
  rw [lt, (incomparable_of_unreached (never actors) most k).2, Bool.false_and]

theorem isUndefined_iff {v : Value} : v.isUndefined = true ↔ v.atom? = some .undefined := by
  cases v with
  | float x => cases x <;> simp [isUndefined, atom?, key]
  | list items => cases h : keyOfItems items <;> simp [isUndefined, atom?, key, h]
  | object fields =>
    simp only [isUndefined, atom?, key, Bool.false_eq_true, false_iff]
    split
    · rename_i a single
      obtain ⟨rfl, _⟩ := List.cons.inj single
      simp
    · simp
  | _ => simp [isUndefined, atom?, key]

theorem never_iff_undefined {quota : Value} {actors : Nat} (number : quota.isNumber = true)
    (most : (Value.int actors).lt quota = false) :
    (∀ count, quota.isReachedBy count = false) ↔ quota.isUndefined = true := by
  rw [isUndefined_iff]
  constructor
  · intro never
    have apart := incomparable_of_unreached (never actors) most 0
    rw [le_int, int_le] at apart
    rw [isNumber] at number
    split at number
    · rename_i n h atom
      simp only [atom, Int.zero_mul, decide_eq_false_iff_not] at apart
      omega
    · rename_i negative atom
      simp [atom] at apart
    · assumption
    · contradiction
  · intro undefined count
    rw [isReachedBy, le_int, undefined]

theorem Needs.below {quota : Value} {q : Nat} (needs : quota.Needs q) {count : Nat}
    (fewer : count < q) : (Value.int count).lt quota = true := by
  have unreached := needs.unreached fewer
  have reached := needs q
  rw [decide_eq_true (Nat.le_refl q)] at reached
  rw [isReachedBy] at unreached reached
  rw [lt, unreached, Bool.not_false, Bool.and_true, int_le]
  rw [le_int] at unreached reached
  cases atom : quota.atom? with
  | none => simp [atom] at reached
  | some form =>
    cases form with
    | number n h =>
      simp only [atom, decide_eq_false_iff_not, decide_eq_true_eq] at unreached ⊢
      omega
    | infinite negative =>
      simp only [atom] at reached unreached
      rw [reached] at unreached
      contradiction
    | _ => simp [atom] at reached

theorem Needs.between {quota : Value} {q : Nat} (needs : quota.Needs q) {actors : Nat}
    (least : quota.lt (.int 1) = false) (most : (Value.int actors).lt quota = false) :
    1 ≤ q ∧ q ≤ actors := by
  have enough : quota.isReachedBy q = true := by rw [needs, decide_eq_true (Nat.le_refl q)]
  rcases needs_or_never least most with never | ⟨p, other, positive, fits⟩
  · rw [never] at enough
    contradiction
  · have at_p := needs p
    rw [other, decide_eq_decide] at at_p
    rw [other, decide_eq_true_eq] at enough
    have same : p = q := Nat.le_antisymm enough (at_p.1 (Nat.le_refl p))
    exact ⟨same ▸ positive, same ▸ fits⟩

theorem exists_needs_iff {quota : Value} {actors : Nat} (least : quota.lt (.int 1) = false)
    (most : (Value.int actors).lt quota = false) :
    (∃ q, quota.Needs q) ↔ ¬ ∀ count, quota.isReachedBy count = false := by
  constructor
  · rintro ⟨q, needs⟩ never
    have enough := needs q
    rw [never, decide_eq_true (Nat.le_refl q)] at enough
    contradiction
  · intro reachable
    rcases needs_or_never least most with never | ⟨q, needs, _⟩
    · exact absurd never reachable
    · exact ⟨q, needs⟩

theorem IsIntegral.exists_nat {quota : Value} (integral : quota.IsIntegral) {actors : Nat}
    (least : quota.lt (.int 1) = false) (most : (Value.int actors).lt quota = false) :
    ∃ q : Nat, (quota == .int q) = true ∧ 1 ≤ q ∧ q ≤ actors := by
  obtain ⟨n, same⟩ := integral
  rw [lt_congr same, int_lt_int, decide_eq_false_iff_not] at least
  rw [lt_congr_right same, int_lt_int, decide_eq_false_iff_not] at most
  refine ⟨n.toNat, ?_, by omega, by omega⟩
  rw [Int.toNat_of_nonneg (by omega)]
  exact same

theorem isIntegral_int (n : Int) : (Value.int n).IsIntegral := ⟨n, (int_same_int n n).2 rfl⟩

end SignatureRouting.Value
