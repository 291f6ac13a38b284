/-!
Binary floating-point numbers as exact data. A finite number is a sign, a significand and a power
of two; the other values are the two infinities and the undefined one. Every function here is
integer arithmetic, so values are compared and truncated without rounding.

The text of a number is the shortest decimal that reads back as it. A number owns the interval of
reals that round to it. Among the points of the coarsest decimal grid that meets this interval the
one nearest to the number is written, and an exact tie goes to the even point.
-/
namespace SignatureRouting

inductive Binary64 where
  | finite (negative : Bool) (significand : Nat) (exponent : Int)
  | infinite (negative : Bool)
  | undefined
  deriving DecidableEq, Repr

def twoTo (k : Nat) : Nat := Nat.pow 2 k

def tenTo (k : Nat) : Nat := Nat.pow 10 k

def lowestTerms (n : Int) : Nat → Int × Nat
  | 0 => (n, 0)
  | k + 1 => if n % 2 = 0 then lowestTerms (n / 2) k else (n, k + 1)

theorem twoTo_succ (k : Nat) : twoTo (k + 1) = twoTo k * 2 := rfl

theorem lowestTerms_of_even {n : Int} {k : Nat} (even : n % 2 = 0) :
    lowestTerms n (k + 1) = lowestTerms (n / 2) k := by
  simp [lowestTerms, even]

theorem lowestTerms_value (n : Int) (k : Nat) :
    (lowestTerms n k).1 * twoTo k = n * twoTo (lowestTerms n k).2 := by
  induction k generalizing n with
  | zero => simp [lowestTerms]
  | succ k ih =>
    by_cases even : n % 2 = 0
    · have half : n / 2 * 2 = n := by omega
      rw [lowestTerms_of_even even, twoTo_succ, Int.natCast_mul, ← Int.mul_assoc, ih (n / 2),
        Int.mul_right_comm]
      exact congrArg (· * _) half
    · simp [lowestTerms, even]

namespace Binary64

/-- The number that a 64-bit word stands for: one sign bit, eleven of exponent, fifty-two of
fraction. Words with the largest exponent are infinities, or undefined if a fraction is left. -/
def ofWord (word : Nat) : Binary64 :=
  let negative := decide (word / twoTo 63 % 2 = 1)
  let biased : Nat := word / twoTo 52 % twoTo 11
  let fraction : Nat := word % twoTo 52
  if biased = twoTo 11 - 1 then if fraction = 0 then .infinite negative else .undefined
  else if biased = 0 then .finite negative fraction (-1074)
  else .finite negative (twoTo 52 + fraction) (Int.ofNat biased - 1075)

def withSign (negative : Bool) (n : Nat) : Int := if negative then -n else n

def isZero : Binary64 → Bool
  | finite _ m _ => m == 0
  | _ => false

def fraction (negative : Bool) (significand : Nat) (exponent : Int) : Int × Nat :=
  lowestTerms (withSign negative (significand * twoTo exponent.toNat)) (-exponent).toNat

def truncate : Binary64 → Option Int
  | finite negative m e => some (withSign negative (m * twoTo e.toNat / twoTo (-e).toNat))
  | _ => none

end Binary64

structure Decimal where
  digits : Nat
  scale : Int
  deriving DecidableEq, Repr

structure Decimal.Layout where
  firstPoint : Int
  lastPoint : Int
  exponentDigits : Nat

namespace Binary64

structure Interval where
  low : Nat
  mid : Nat
  high : Nat
  closed : Bool
  power : Int

/-- Half a place lies on either side, except that the place below the least significand of an
exponent is half as wide. The ends belong to the interval when the significand is even. -/
def interval (significand : Nat) (exponent : Int) : Interval where
  low := 4 * significand - (if significand = twoTo 52 ∧ -1074 < exponent then 1 else 2)
  mid := 4 * significand
  high := 4 * significand + 2
  closed := significand % 2 = 0
  power := exponent - 2

def Interval.numerator (i : Interval) (scale : Int) (x : Nat) : Nat :=
  x * twoTo i.power.toNat * tenTo (-scale).toNat

def Interval.denominator (i : Interval) (scale : Int) : Nat :=
  twoTo (-i.power).toNat * tenTo scale.toNat

def Interval.Holds (i : Interval) (scale : Int) (point : Nat) : Prop :=
  let p := point * i.denominator scale
  let low := i.numerator scale i.low
  let high := i.numerator scale i.high
  0 < point ∧ if i.closed then low ≤ p ∧ p ≤ high else low < p ∧ p < high

instance (i : Interval) (scale : Int) (point : Nat) : Decidable (i.Holds scale point) := by
  unfold Interval.Holds; infer_instance

def Interval.nearest? (i : Interval) (scale : Int) : Option Nat :=
  let below := i.numerator scale i.mid / i.denominator scale
  let twice := 2 * i.numerator scale i.mid
  let middle := (2 * below + 1) * i.denominator scale
  if i.Holds scale below then
    if i.Holds scale (below + 1) ∧ (middle < twice ∨ middle = twice ∧ below % 2 = 1)
    then some (below + 1) else some below
  else if i.Holds scale (below + 1) then some (below + 1) else none

/-- The shortest decimal that reads back as the number. No finite number needs a grid coarser than
`10 ^ 309` or finer than `10 ^ -330`. -/
def shortest (significand : Nat) (exponent : Int) : Decimal :=
  let i := interval significand exponent
  ((List.range 640).findSome? fun (k : Nat) =>
    (i.nearest? (309 - k)).map fun digits => ⟨digits, 309 - k⟩).getD ⟨0, 0⟩

end Binary64

namespace Decimal

def exponentText (layout : Layout) (e : Int) : String :=
  let digits := toString e.natAbs
  (if e < 0 then "e-" else "e+") ++
    String.ofList (List.replicate (layout.exponentDigits - digits.length) '0') ++ digits

def text (layout : Layout) (d : Decimal) : String :=
  let digits := (toString d.digits).toList
  let point := d.scale + digits.length
  let zeros (n : Int) := List.replicate n.toNat '0'
  if layout.firstPoint ≤ point ∧ point ≤ layout.lastPoint then
    if point ≤ 0 then "0." ++ String.ofList (zeros (-point) ++ digits)
    else if 0 ≤ d.scale then String.ofList (digits ++ zeros d.scale) ++ ".0"
    else String.ofList (digits.take point.toNat) ++ "." ++ String.ofList (digits.drop point.toNat)
  else
    let tail := digits.drop 1
    String.ofList (digits.take 1) ++ (if tail.isEmpty then "" else "." ++ String.ofList tail) ++
      exponentText layout (point - 1)

end Decimal

def Binary64.layout : Decimal.Layout := ⟨-3, 16, 2⟩

def Binary64.text : Binary64 → String
  | finite negative m e =>
    (if negative then "-" else "") ++ if m = 0 then "0.0" else (shortest m e).text layout
  | infinite negative => if negative then "-inf" else "inf"
  | undefined => "nan"

end SignatureRouting
