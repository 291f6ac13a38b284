import SignatureRouting.Tag
import SignatureRouting.Value.Order

/-!
Nodes of the signing automaton. A node is one step in progress: who may still act, which documents
are open and who has acted on each, and what is done. A document is done once as many actors as
the quota have acted on it, and an actor is done once it has acted on as many open documents as
the quota. The step, the tag and the quota of a node are values that nobody checks when a node is
made; a quota that is no number is noticed when something has to be compared with it.
-/
namespace SignatureRouting

structure OpenDocument where
  id : Value
  actors : List Value

structure Node where
  /-- The place of the authored step that the node comes from. -/
  step : Value
  role : Role
  tag : Value
  actors : List Value
  opened : List OpenDocument
  /-- How many different actors complete a document. -/
  quota : Value
  doneActors : List Value := []
  doneDocuments : List Value := []

structure NodeSpec where
  step : Value
  role : Role
  tag : Value
  actors : List Value
  documents : List Value
  quota : Value

inductive ShapeError where
  | misaligned (step : Value) (progress documents : Nat)
  | cursorOutside (index : Value) (nodes : Nat)
  | notIdentifier
  | notNumber

inductive Obstacle where
  | complete
  | absent
  | full
  | repeated
  deriving DecidableEq, Repr

def ShapeError.failure : ShapeError → Failure
  | misaligned step progress documents =>
    .ofMessage .internal do
      return s!"Node for step {← step.written} has {progress} working documents " ++
        s!"for {documents} documents"
  | cursorOutside index nodes =>
    .ofMessage .internal do
      return s!"Automaton index {← index.written} out of range for {nodes} nodes"
  | notIdentifier => .misuse .notIdentifier
  | notNumber => .misuse .notNumber

def Obstacle.reason : Obstacle → String
  | complete => "already complete at this step"
  | absent => "not found at this step"
  | full => "every needed actor already acted on it"
  | repeated => "already acted on by this actor"

namespace OpenDocument

def fresh (id : Value) : OpenDocument := ⟨id, []⟩

def add (d : OpenDocument) (actor : Value) : OpenDocument := ⟨d.id, d.actors ++ [actor]⟩

def isComplete (d : OpenDocument) (quota : Value) : Bool := quota.le (.int d.actors.length)

def isStarted (d : OpenDocument) (quota : Value) : Bool :=
  !d.actors.isEmpty && (Value.int d.actors.length).lt quota

end OpenDocument

def lastIndex? {α : Type} (p : α → Bool) : List α → Option Nat
  | [] => none
  | x :: rest =>
    match lastIndex? p rest with
    | some i => some (i + 1)
    | none => if p x then some 0 else none

namespace NodeSpec

def node (spec : NodeSpec) : Node where
  step := spec.step
  role := spec.role
  tag := spec.tag
  actors := spec.actors
  opened := spec.documents.map .fresh
  quota := spec.quota

def node? (spec : NodeSpec) : Except ShapeError Node :=
  if spec.documents.all Value.isIdentifier then .ok spec.node else .error .notIdentifier

end NodeSpec

namespace Node

def documents (n : Node) : List Value := n.opened.map (·.id)

def progress (n : Node) : List (List Value) := n.opened.map (·.actors)

def withOpened (n : Node) (documents : List Value) (progress : List (List Value)) :
    Except ShapeError Node :=
  if progress.length ≠ documents.length then
    .error (.misaligned n.step progress.length documents.length)
  else if documents.all Value.isIdentifier then
    .ok { n with opened := List.zipWith OpenDocument.mk documents progress }
  else .error .notIdentifier

/-- The place of an open document. Where a document is open twice the later place is meant. -/
def position? (n : Node) (document : Value) : Option Nat :=
  lastIndex? (·.id == document) n.opened

def startedCount (n : Node) : Nat := n.opened.countP (·.isStarted n.quota)

def isCountable (n : Node) : Bool :=
  n.quota.isNumber || n.opened.all (·.actors.isEmpty)

def startedCount? (n : Node) : Except Misuse Nat :=
  if n.isCountable then .ok n.startedCount else .error .notNumber

/-- Open documents that some eligible actor has not acted on, each with these actors. -/
def targets (n : Node) : List (Value × List Value) :=
  (n.opened.map fun d => (d.id, n.actors.filter fun a => !d.actors.contains a)).filter
    fun t => !t.2.isEmpty

def involved (n : Node) : Except Misuse (List Value) :=
  match Value.unique? (n.actors ++ n.doneActors) with
  | some actors => .ok actors
  | none => .error .notIdentifier

def isFinished (n : Node) : Bool :=
  n.opened.isEmpty || n.actors.all fun a => n.doneActors.contains a

def isEligible (n : Node) (actor : Value) : Bool :=
  n.actors.contains actor && !n.doneActors.contains actor

def open? (n : Node) (document : Value) : Option OpenDocument :=
  (n.position? document).bind fun i => n.opened[i]?

def closure? (n : Node) (document : Value) : Option Obstacle :=
  if n.doneDocuments.contains document then some .complete
  else if (n.open? document).isNone then some .absent
  else none

def obstacle? (n : Node) (actor document : Value) : Option Obstacle :=
  if n.doneDocuments.contains document then some .complete
  else match n.open? document with
    | none => some .absent
    | some d =>
      if d.isComplete n.quota then some .full
      else if d.actors.contains actor then some .repeated
      else none

def marked (n : Node) (actor : Value) (places : List Nat) : List OpenDocument :=
  n.opened.mapIdx fun i d => if i ∈ places then d.add actor else d

def record (n : Node) (actor : Value) (requested : List Value) : Node :=
  let marked := n.marked actor (requested.filterMap n.position?)
  let retires := n.quota.le (.int (marked.countP (·.actors.contains actor)))
  { n with
    actors := if retires then n.actors.filter (fun a => !(a.equals actor)) else n.actors
    opened := marked.filter fun d => !d.isComplete n.quota
    doneActors := if retires then n.doneActors ++ [actor] else n.doneActors
    doneDocuments := n.doneDocuments ++ (marked.filter (·.isComplete n.quota)).map (·.id) }

end Node
end SignatureRouting
