import SignatureRouting.Node

/-!
The signing automaton: the nodes of a workflow and a cursor on the current one. The cursor lies
past the last node once the workflow has ended.

An automaton can be split between two steps. The first part is what has been gone through, with the
cursor at its end, and the second is a workflow of its own that starts with the next node. There is
no split at the start, at the end, or while some document is partly acted on.
-/
namespace SignatureRouting

structure Automaton where
  nodes : List Node
  index : Nat

/-- What is left to do at the current node: its tag, and the open documents with the actors who
may still act on each. -/
structure PendingWork where
  tag : Value
  items : List (Value × List Value)

namespace PendingWork

def mapping? (p : PendingWork) : Except Misuse (List (Value × List (Value × List Value))) :=
  if p.tag.isIdentifier then .ok [(p.tag, p.items)] else .error .notIdentifier

end PendingWork

structure Split where
  previous : Automaton
  next : Automaton

def splitEntry (previous next : List Node) : JournalEntry where
  level := .debug
  text := s!"Splitting automaton of {previous.length + next.length} steps at {previous.length}"

namespace Automaton

def empty : Automaton := ⟨[], 0⟩

def at? (nodes : List Node) (index : Int) : Except ShapeError Automaton :=
  if 0 ≤ index ∧ index ≤ nodes.length then .ok ⟨nodes, index.toNat⟩
  else .error (.cursorOutside (.int index) nodes.length)

def append (a : Automaton) (node : Node) : Automaton := { a with nodes := a.nodes ++ [node] }

def append? (a : Automaton) (spec : NodeSpec) : Except ShapeError Automaton := do
  at? (a.nodes ++ [← spec.node?]) a.index

def current? (a : Automaton) : Option Node := a.nodes[a.index]?

def pendingWork? (a : Automaton) : Option PendingWork :=
  match a.current? with
  | none => none
  | some node => if node.targets.isEmpty then none else some ⟨node.tag, node.targets⟩

def isAtStart (a : Automaton) : Bool :=
  match a.nodes with
  | [] => false
  | node :: _ => a.index == 0 && node.doneDocuments.isEmpty && node.startedCount == 0

/-- Whether anybody has acted cannot be told from progress that compares with no quota. -/
def isAtStart? (a : Automaton) : Except Misuse Bool :=
  let known := a.index != 0 || a.nodes.head?.all fun n => !n.doneDocuments.isEmpty || n.isCountable
  if known then .ok a.isAtStart else .error .notNumber

def isAtEnd (a : Automaton) : Bool :=
  match a.current? with
  | none => true
  | some node => a.index + 1 == a.nodes.length && node.opened.isEmpty

def involved (a : Automaton) : Except Misuse (List Value) := do
  return Value.unique (← a.nodes.mapM Node.involved).flatten

theorem at?_of_le {nodes : List Node} {k : Nat} (h : k ≤ nodes.length) :
    at? nodes k = .ok ⟨nodes, k⟩ := by
  simp [at?, h]

def splitPoint? (a : Automaton) : Option Nat :=
  if a.isAtEnd || a.isAtStart then none
  else match a.current? with
    | none => none
    | some node =>
      if node.opened.isEmpty then some (a.index + 1)
      else if 0 < node.startedCount then none
      else some a.index

def findSplitPoint (a : Automaton) : Except Misuse (Option Nat) :=
  if a.current?.all Node.isCountable then .ok a.splitPoint? else .error .notNumber

def splitAt (a : Automaton) (k : Nat) : Split := ⟨⟨a.nodes.take k, k⟩, ⟨a.nodes.drop k, 0⟩⟩

def split? (a : Automaton) : Option Split :=
  a.splitPoint?.map a.splitAt

/-- A split comes at the current node, or behind it if no document is open there. -/
theorem splitPoint?_eq_some {a : Automaton} {k : Nat} (point : a.splitPoint? = some k) :
    ∃ node, a.nodes[a.index]? = some node ∧
      (node.opened.isEmpty = true ∧ k = a.index + 1 ∨
        node.opened.isEmpty = false ∧ k = a.index) := by
  unfold splitPoint? at point
  split at point
  · contradiction
  · split at point
    · contradiction
    · rename_i node here
      refine ⟨node, here, ?_⟩
      split at point
      · rename_i empty
        exact Or.inl ⟨empty, (Option.some.inj point).symm⟩
      · rename_i some
        rw [Bool.not_eq_true] at some
        split at point
        · contradiction
        · exact Or.inr ⟨some, (Option.some.inj point).symm⟩

theorem split_nodes {a : Automaton} {s : Split} (h : a.split? = some s) :
    s.previous.nodes ++ s.next.nodes = a.nodes := by
  obtain ⟨k, _, rfl⟩ := Option.map_eq_some_iff.1 h
  exact List.take_append_drop k a.nodes

end Automaton

end SignatureRouting
