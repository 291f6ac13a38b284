import SignatureRouting.Number.Binary64
import SignatureRouting.Text.Character

/-!
Integers as decimal texts. A numeral is an optional sign and a run of decimal digits of any script,
where a single low line may stand between two digits; blanks around it are dropped. The information
separators are not among the blanks of a numeral. `plainDigits?` reads the narrower form that has
ASCII digits only.

Neither way between an integer and its text goes beyond a limit of digits. A run of more digits is
not read, and is refused as such before anything after it is looked at; an integer of more digits
is not written.
-/
namespace SignatureRouting

/-- Decimal digits of Unicode 14. In every range they run from zero to nine in order, and the
mathematical digits do so several times over. -/
def digitRanges : List (Nat × Nat) :=
  [(0x30, 0x39), (0x660, 0x669), (0x6F0, 0x6F9), (0x7C0, 0x7C9), (0x966, 0x96F), (0x9E6, 0x9EF),
   (0xA66, 0xA6F), (0xAE6, 0xAEF), (0xB66, 0xB6F), (0xBE6, 0xBEF), (0xC66, 0xC6F), (0xCE6, 0xCEF),
   (0xD66, 0xD6F), (0xDE6, 0xDEF), (0xE50, 0xE59), (0xED0, 0xED9), (0xF20, 0xF29),
   (0x1040, 0x1049), (0x1090, 0x1099), (0x17E0, 0x17E9), (0x1810, 0x1819), (0x1946, 0x194F),
   (0x19D0, 0x19D9), (0x1A80, 0x1A89), (0x1A90, 0x1A99), (0x1B50, 0x1B59), (0x1BB0, 0x1BB9),
   (0x1C40, 0x1C49), (0x1C50, 0x1C59), (0xA620, 0xA629), (0xA8D0, 0xA8D9), (0xA900, 0xA909),
   (0xA9D0, 0xA9D9), (0xA9F0, 0xA9F9), (0xAA50, 0xAA59), (0xABF0, 0xABF9), (0xFF10, 0xFF19),
   (0x104A0, 0x104A9), (0x10D30, 0x10D39), (0x11066, 0x1106F), (0x110F0, 0x110F9),
   (0x11136, 0x1113F), (0x111D0, 0x111D9), (0x112F0, 0x112F9), (0x11450, 0x11459),
   (0x114D0, 0x114D9), (0x11650, 0x11659), (0x116C0, 0x116C9), (0x11730, 0x11739),
   (0x118E0, 0x118E9), (0x11950, 0x11959), (0x11C50, 0x11C59), (0x11D50, 0x11D59),
   (0x11DA0, 0x11DA9), (0x16A60, 0x16A69), (0x16AC0, 0x16AC9), (0x16B50, 0x16B59),
   (0x1D7CE, 0x1D7FF), (0x1E140, 0x1E149), (0x1E2F0, 0x1E2F9), (0x1E950, 0x1E959),
   (0x1FBF0, 0x1FBF9)]

inductive Overlong where
  | read (digits : Nat)
  | written
  deriving DecidableEq, Repr

inductive NumeralError where
  | malformed
  | overlong (digits : Nat)
  deriving DecidableEq, Repr

/-- No numeral has more digits than this, leading zeros included. -/
def numeralLimit : Nat := 4300

def Overlong.text : Overlong → String
  | read digits =>
    s!"Exceeds the limit ({numeralLimit} digits) for integer string conversion: " ++
      s!"value has {digits} digits; use sys.set_int_max_str_digits() to increase the limit"
  | written =>
    s!"Exceeds the limit ({numeralLimit} digits) for integer string conversion; " ++
      "use sys.set_int_max_str_digits() to increase the limit"

def isWithinLimit (n : Int) : Bool := (Nat.toDigits 10 n.natAbs).length ≤ numeralLimit

@[irreducible] def leastOverlong : Nat := tenTo numeralLimit

def writeInteger (n : Int) : Except Overlong String :=
  if isWithinLimit n then .ok (toString n) else .error .written

theorem length_toDigits_le_iff {n k : Nat} (some : 0 < k) :
    (Nat.toDigits 10 n).length ≤ k ↔ n < tenTo k :=
  Nat.length_toDigits_le_iff (by decide) some

theorem isWithinLimit_iff (n : Int) : isWithinLimit n = true ↔ n.natAbs < leastOverlong := by
  unfold leastOverlong
  exact decide_eq_true_iff.trans (length_toDigits_le_iff (by decide))

theorem isWithinLimit_leastOverlong : isWithinLimit leastOverlong = false := by
  rw [← Bool.not_eq_true, isWithinLimit_iff, Int.natAbs_natCast]
  exact Nat.lt_irrefl leastOverlong

theorem leastOverlong_pos : 0 < leastOverlong := by
  apply Nat.pos_of_ne_zero
  intro zero
  have long := isWithinLimit_leastOverlong
  rw [zero] at long
  cases long

/-- A computation that gives something under a condition, and otherwise comes to an integer that
cannot be written. -/
def WritesIf {α : Type} (x : Except Overlong α) (p : Bool) : Prop :=
  if p then ∃ a, x = .ok a else x = .error .written

theorem WritesIf.pure {α : Type} (a : α) : WritesIf (pure a) true := ⟨a, rfl⟩

theorem WritesIf.made {α : Type} {x : Except Overlong α} {p : Bool} (h : WritesIf x p)
    (writable : p = true) : ∃ a, x = .ok a := by
  subst writable
  exact h

theorem WritesIf.failed {α : Type} {x : Except Overlong α} {p : Bool} (h : WritesIf x p)
    (long : p = false) : x = .error .written := by
  subst long
  exact h

theorem WritesIf.bind {α β : Type} {x : Except Overlong α} {f : α → Except Overlong β} {p q : Bool}
    (h : WritesIf x p) (k : ∀ a, WritesIf (f a) q) : WritesIf (x >>= f) (p && q) := by
  cases p with
  | true =>
    obtain ⟨a, rfl⟩ := h
    exact k a
  | false =>
    rw [h.failed rfl]
    rfl

theorem WritesIf.map {α β : Type} {x : Except Overlong α} {p : Bool} (h : WritesIf x p)
    (f : α → β) : WritesIf (do return f (← x)) p := by
  have chained := h.bind fun a => WritesIf.pure (f a)
  rwa [Bool.and_true] at chained

theorem WritesIf.eq_true {α : Type} {x : Except Overlong α} {p : Bool} (h : WritesIf x p) {a : α}
    (ok : x = .ok a) : p = true := by
  cases p with
  | true => rfl
  | false => cases ok.symm.trans (h.failed rfl)

theorem writesIf_writeInteger (n : Int) : WritesIf (writeInteger n) (isWithinLimit n) := by
  unfold writeInteger
  cases isWithinLimit n with
  | true => exact ⟨_, rfl⟩
  | false => rfl

def digitValue? (c : Char) : Option Nat :=
  (digitRanges.find? (inRange c)).map fun range => (c.toNat - range.1) % 10

def ofDigits (digits : List Nat) : Nat := digits.foldl (fun n d => 10 * n + d) 0

/-- What may follow a digit: more digits, each after at most one low line. -/
def digitsAfter? : List Char → Option (List Nat)
  | [] => some []
  | '_' :: c :: rest => do return (← digitValue? c) :: (← digitsAfter? rest)
  | c :: rest => do return (← digitValue? c) :: (← digitsAfter? rest)

def digits? : List Char → Option (List Nat)
  | [] => none
  | c :: rest => do return (← digitValue? c) :: (← digitsAfter? rest)

def isNumeralBlank (c : Char) : Bool := isBlank c && !inRange c (0x1C, 0x1F)

def isNumeralChar (c : Char) : Bool := c == '_' || (digitValue? c).isSome

def readNatural (cs : List Char) : Except NumeralError Nat :=
  match digits? (cs.takeWhile isNumeralChar) with
  | none => .error .malformed
  | some digits =>
    if numeralLimit < digits.length then .error (.overlong digits.length)
    else if (cs.dropWhile isNumeralChar).all isNumeralBlank then .ok (ofDigits digits)
    else .error .malformed

def readNumeral (cs : List Char) : Except NumeralError Int :=
  match cs.dropWhile isNumeralBlank with
  | '+' :: rest => (readNatural rest).map fun n => (n : Int)
  | '-' :: rest => (readNatural rest).map fun n => -(n : Int)
  | rest => (readNatural rest).map fun n => (n : Int)

def isPlainDigit (c : Char) : Bool := inRange c (0x30, 0x39)

def plainDigit (c : Char) : Nat := c.toNat - 0x30

def plainDigits? (cs : List Char) : Option (List Nat) :=
  if !cs.isEmpty && cs.all isPlainDigit then some (cs.map plainDigit) else none

end SignatureRouting
