import SignatureRouting.Number.Binary64

/-!
Data that the engine hands through without looking inside: identifiers, authored settings and
stored snapshots. A value is one of the seven forms of a data document; the fields of an object
keep their order.

Two values name the same thing if they are equal up to their form. Numbers are the same when they
are equal as numbers, and true and false count as one and zero. A text is the same as no number.
Lists are compared item by item and objects field by field in any order. Every value has a key, a
list of atoms, and two values are the same when their keys are equal; so sameness is an
equivalence, and facts about it are facts about equality of keys. Where two values are compared on
their own, and not as members of collections, an undefined float equals nothing.
-/
namespace SignatureRouting

inductive Value where
  | null
  | bool (b : Bool)
  | int (n : Int)
  | float (x : Binary64)
  | text (s : String)
  | list (items : List Value)
  | object (fields : List (String × Value))
  deriving Repr, Inhabited

inductive Atom where
  | null
  | number (numerator : Int) (halvings : Nat)
  | infinite (negative : Bool)
  | undefined
  | text (s : String)
  | list (length : Nat)
  | object (length : Nat)
  deriving DecidableEq, Repr

namespace Value

/-- Whether a value counts as given: null, false, zero and empty collections do not. -/
def isGiven : Value → Bool
  | null => false
  | bool b => b
  | int n => n != 0
  | float x => !x.isZero
  | text s => !s.isEmpty
  | list items => !items.isEmpty
  | object fields => !fields.isEmpty

/-- The elements of a collection: the characters of a text, the items of a list, the names of an
object's fields. -/
def elements? : Value → Option (List Value)
  | text s => some (s.toList.map fun c => text (String.singleton c))
  | list items => some items
  | object fields => some (fields.map fun f => text f.1)
  | _ => none

def collection? (v : Value) : Option (List Value) := if v.isGiven then v.elements? else some []

def field? (name : String) : Value → Option Value
  | object fields => (fields.find? (·.1 == name)).map (·.2)
  | _ => none

def byName (a b : String × List Atom) : Bool := decide (a.1 ≤ b.1)

mutual

def key : Value → List Atom
  | null => [.null]
  | bool b => [.number (if b then 1 else 0) 0]
  | int n => [.number n 0]
  | float (.finite s m e) =>
    let f := Binary64.fraction s m e
    [.number f.1 f.2]
  | float (.infinite s) => [.infinite s]
  | float .undefined => [.undefined]
  | text s => [.text s]
  | list items => .list items.length :: keyOfItems items
  | object fields =>
    .object fields.length ::
      ((keysOfFields fields).mergeSort byName).flatMap fun f => .text f.1 :: f.2

def keyOfItems : List Value → List Atom
  | [] => []
  | v :: rest => key v ++ keyOfItems rest

def keysOfFields : List (String × Value) → List (String × List Atom)
  | [] => []
  | (name, v) :: rest => (name, key v) :: keysOfFields rest

end

instance : BEq Value := ⟨fun a b => a.key == b.key⟩

theorem beq_iff_key_eq (a b : Value) : (a == b) = true ↔ a.key = b.key :=
  beq_iff_eq (a := a.key) (b := b.key)

instance : EquivBEq Value where
  rfl := by intro a; exact (beq_iff_key_eq a a).2 rfl
  symm := by intro a b h; exact (beq_iff_key_eq b a).2 ((beq_iff_key_eq a b).1 h).symm
  trans := by
    intro a b c h k
    exact (beq_iff_key_eq a c).2 (((beq_iff_key_eq a b).1 h).trans ((beq_iff_key_eq b c).1 k))

theorem contains_iff_key_mem (l : List Value) (v : Value) :
    l.contains v = true ↔ v.key ∈ l.map key := by
  rw [List.contains_iff_exists_mem_beq]
  simp only [List.mem_map, beq_iff_key_eq]
  exact ⟨fun ⟨w, hw, h⟩ => ⟨w, hw, h.symm⟩, fun ⟨w, hw, h⟩ => ⟨w, hw, h.symm⟩⟩

def isUndefined : Value → Bool
  | float .undefined => true
  | _ => false

/-- Equality of two values on their own. An undefined float does not even equal itself. -/
def equals (v w : Value) : Bool := v == w && !v.isUndefined

theorem equals_of_defined {v : Value} (defined : v.isUndefined = false) (w : Value) :
    v.equals w = (v == w) := by
  simp [equals, defined]

def isIdentifier : Value → Bool
  | list _ => false
  | object _ => false
  | _ => true

/-- The values of a list without repetitions; of values that are the same the first one stays. -/
def unique : List Value → List Value
  | [] => []
  | v :: rest => v :: (unique rest).filter fun w => !(v == w)

def unique? (values : List Value) : Option (List Value) :=
  if values.all isIdentifier then some (unique values) else none

end Value

end SignatureRouting
