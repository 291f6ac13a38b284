import SignatureRouting.Automaton

/-!
Actions on an automaton. An action lands on the first node at or after the cursor that is not
finished. It is checked as a whole before anything is recorded, so it is either refused or applied
to every document it asks for; the cursor moves on when the node has no open document left.
-/
namespace SignatureRouting

structure Action where
  actor : Value
  tag : Value
  documents : List Value

inductive ActionError where
  | terminated
  | wrongTag (expected received : Value)
  | notEligible (actor : Value)
  | notActionable (document actor : Value) (obstacle : Obstacle)
  | shape (e : ShapeError)
  | misuse (m : Misuse)

/-- An accepted action: where it landed, what the node became, and the automaton after it. -/
structure Transition where
  landing : Nat
  node : Node
  requested : List Value
  result : Automaton

namespace ActionError

def shown : ActionError → List Value
  | wrongTag expected received => [received, expected]
  | notEligible actor => [actor]
  | notActionable document actor obstacle => [document, actor, .text obstacle.reason]
  | _ => []

def failure : ActionError → Failure
  | terminated => .signing (.terminated "")
  | wrongTag expected received => (SigningError.wrongTag expected received).raised
  | notEligible actor => (SigningError.actorNotEligible actor).raised
  | notActionable document actor obstacle =>
    (SigningError.documentNotActionable document actor (.text obstacle.reason)).raised
  | shape e => e.failure
  | misuse m => .misuse m

end ActionError

namespace Node

def checkEach (n : Node) (actor : Value) : List Value → Except ActionError Unit
  | [] => .ok ()
  | document :: rest =>
    match n.obstacle? actor document with
    | some obstacle => .error (.notActionable document actor obstacle)
    | none => n.checkEach actor rest

/-- Refuses an action at a node whose quota is no number. Nothing can be compared with it, so only
the first document is looked at, and only for whether it is open. -/
def refuseUncounted (n : Node) (actor : Value) (requested : List Value) : ActionError :=
  match requested with
  | [] => .misuse .notNumber
  | document :: _ =>
    match n.closure? document with
    | some obstacle => .notActionable document actor obstacle
    | none => .misuse .notNumber

def accept (n : Node) (x : Action) : Except ActionError (List Value) :=
  if !(x.tag.equals n.tag) then .error (.wrongTag n.tag x.tag)
  else if !n.isEligible x.actor then .error (.notEligible x.actor)
  else match Value.unique? x.documents with
    | none => .error (.misuse .notIdentifier)
    | some requested =>
      if n.quota.isNumber then (n.checkEach x.actor requested).map fun _ => requested
      else .error (n.refuseUncounted x.actor requested)

end Node

namespace Automaton

def landing (a : Automaton) : Nat :=
  a.index + ((a.nodes.drop a.index).takeWhile Node.isFinished).length

def transition (a : Automaton) (x : Action) : Except ActionError Transition := do
  match a.nodes[a.landing]? with
  | none => .error .terminated
  | some node =>
    let requested ← node.accept x
    let after := node.record x.actor requested
    let cursor := if after.opened.isEmpty then a.landing + 1 else a.landing
    let result ← (at? (a.nodes.set a.landing after) cursor).mapError .shape
    return ⟨a.landing, after, requested, result⟩

def apply (a : Automaton) (x : Action) : Except ActionError Automaton :=
  (a.transition x).map (·.result)

/-- An action whose documents may be no collection, which is noticed only once nothing else is
wrong with it. -/
def transitionOn (a : Automaton) (actor tag documents : Value) : Except ActionError Transition :=
  match documents.elements? with
  | some ds => a.transition ⟨actor, tag, ds⟩
  | none => do
    let _ ← a.transition ⟨actor, tag, []⟩
    .error (.misuse .notCollection)

end Automaton

/-- What is reported about an accepted action. Whoever acts does not learn of it if that cannot be
written. -/
def Transition.entry (t : Transition) (actor : Value) : JournalEntry where
  level := .debug
  text :=
    let report : Except Overlong String :=
      if t.node.opened.isEmpty then do
        return s!"Step {t.landing} ({← t.node.tag.written}) completed by actor {← actor.written}"
      else do
        return s!"Actor {← actor.written} acted on {← (Value.list t.requested).written} " ++
          s!"at step {t.landing} ({← t.node.tag.written})"
    report.toOption.getD ""

end SignatureRouting
