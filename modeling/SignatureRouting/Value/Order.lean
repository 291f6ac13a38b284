import SignatureRouting.Value

/-!
Ascending order of values. Numbers are ordered by size, whatever their form, and texts by code
point; no other values, and no numbers and texts together, can be put in order. Truth values count
as the numbers one and zero. An undefined float may be compared with numbers, but is
neither below nor above any of them.
-/
namespace SignatureRouting

def Atom.le : Atom → Atom → Bool
  | .number n h, .number m k => n * twoTo k ≤ m * twoTo h
  | .number _ _, .infinite negative => !negative
  | .infinite negative, .number _ _ => negative
  | .infinite a, .infinite b => a || !b
  | .text s, .text t => decide (s ≤ t)
  | _, _ => false

namespace Value

def atom? (v : Value) : Option Atom :=
  match v.key with
  | [a] => some a
  | _ => none

def le (v w : Value) : Bool :=
  match v.atom?, w.atom? with
  | some a, some b => a.le b
  | _, _ => false

def isNumber (v : Value) : Bool :=
  match v.atom? with
  | some (.number _ _) => true
  | some (.infinite _) => true
  | some .undefined => true
  | _ => false

def isText (v : Value) : Bool :=
  match v with
  | text _ => true
  | _ => false

/-- Strictly below. Where two values cannot be ordered neither is below the other. -/
def lt (v w : Value) : Bool := v.le w && !w.le v

theorem int_le_int (a b : Int) : (int a).le (int b) = decide (a ≤ b) := by
  simp [le, atom?, key, Atom.le, twoTo]

theorem int_lt_int (a b : Int) : (int a).lt (int b) = decide (a < b) := by
  rw [lt, int_le_int, int_le_int, ← decide_not, ← Bool.decide_and]
  exact decide_eq_decide.2 (by omega)

def sorted? (values : List Value) : Option (List Value) :=
  if values.length ≤ 1 then some values
  else if values.all isNumber || values.all isText then some (values.mergeSort le)
  else none

end Value
end SignatureRouting
