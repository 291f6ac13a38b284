import SignatureRouting.Automaton.Action
import SignatureRouting.Storage

/-!
Cursors set by hand. The cursor of a workflow is a place among its nodes, but whoever puts an
automaton together may give any number in that range. A truth value names the place zero or one and
is written as it was given until the cursor moves. A floating-point number names the place past the
last node if it is not smaller; otherwise no node stands at it, and whatever needs the current node
is refused.
-/
namespace SignatureRouting

inductive Cursor where
  | place (k : Nat)
  | truth (b : Bool)
  | float (x : Binary64)

/-- Nodes with a cursor that was set by hand. -/
structure Positioned where
  nodes : List Node
  cursor : Cursor

structure PositionedSplit where
  previous : Positioned
  next : Positioned

namespace Cursor

def ofValue? : Value → Option Cursor
  | .int n => some (place n.toNat)
  | .bool b => some (truth b)
  | .float x => some (float x)
  | _ => none

def toValue : Cursor → Value
  | place k => .int k
  | truth b => .bool b
  | float x => .float x

def place? (nodes : Nat) : Cursor → Option Nat
  | place k => some k
  | truth b => some b.toNat
  | float x => if (Value.int nodes).le (.float x) then some nodes else none

end Cursor

namespace Positioned

def ofAutomaton (a : Automaton) : Positioned := ⟨a.nodes, .place a.index⟩

def at? (nodes : List Node) (index : Value) : Except ShapeError Positioned :=
  match Cursor.ofValue? index with
  | none => .error .notNumber
  | some cursor =>
    if (Value.int 0).le index && index.le (.int nodes.length) then .ok ⟨nodes, cursor⟩
    else .error (.cursorOutside index nodes.length)

def toValue (p : Positioned) : Value :=
  .object [("nodes", .list (p.nodes.map Node.toValue)), ("index", p.cursor.toValue)]

instance : BEq Positioned := ⟨fun p q => p.toValue == q.toValue⟩

def automaton? (p : Positioned) : Except Misuse Automaton :=
  match p.cursor.place? p.nodes.length with
  | some k => .ok ⟨p.nodes, k⟩
  | none => .error .notPlace

def cursorAt (p : Positioned) (a : Automaton) (place : Nat) : Cursor :=
  if place = a.index then p.cursor else .place place

def append? (p : Positioned) (spec : NodeSpec) : Except ShapeError Positioned := do
  at? (p.nodes ++ [← spec.node?]) p.cursor.toValue

/-- Replaces the node at a place. Places below zero count from the end. -/
def withNode (p : Positioned) (place : Int) (change : Node → Except Failure Node) :
    Except Failure Positioned := do
  let k := if place < 0 then place + p.nodes.length else place
  if k < 0 then .error (.misuse .outside)
  else match p.nodes[k.toNat]? with
    | none => .error (.misuse .outside)
    | some node => return { p with nodes := p.nodes.set k.toNat (← change node) }

def transitionOn (p : Positioned) (actor tag documents : Value) :
    Except ActionError (Transition × Positioned) := do
  let a ← p.automaton?.mapError .misuse
  let t ← a.transitionOn actor tag documents
  return (t, ⟨t.result.nodes, p.cursorAt a t.result.index⟩)

/-- Where no node stands at the cursor, a split is refused or impossible, as the comparisons come
out that need no node. -/
def findSplitPoint (p : Positioned) : Except Misuse (Option Cursor) := do
  match p.automaton? with
  | .ok a => return (← a.findSplitPoint).map (p.cursorAt a)
  | .error m =>
    let start := p.cursor.toValue == .int 0 && p.nodes.length != 1
    if start && (← (⟨p.nodes, 0⟩ : Automaton).isAtStart?) then return none else .error m

def splitAt (p : Positioned) (point : Cursor) : PositionedSplit :=
  let k := (point.place? p.nodes.length).getD 0
  ⟨⟨p.nodes.take k, point⟩, ⟨p.nodes.drop k, .place 0⟩⟩

end Positioned
end SignatureRouting
