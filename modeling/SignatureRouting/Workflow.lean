import SignatureRouting.Automaton
import SignatureRouting.Workflow.Plan

/-!
Building a workflow. Authored steps are planned, checked for coherence with the session's history
and with one another, and turned into the nodes of an automaton. Participants who share a step get
one node; those who sign one after the other get a node each.
-/
namespace SignatureRouting

structure Workflow where
  actors : List Value
  documents : List Value
  automaton : Automaton

/-- How far a list of steps has been turned into nodes. -/
structure Draft where
  actors : List Value
  history : History
  nodes : List Node

namespace StepPlan

def specs (plan : StepPlan) (documents : List Value) : Except BuildError (List NodeSpec) :=
  let spec role actors quota : NodeSpec :=
    ⟨.int plan.place, role, .text plan.tag, actors, documents, quota⟩
  match plan.role with
  | .standard .approval => .ok [spec .approval plan.actors plan.quota]
  | .standard .signature =>
    if Tag.isShared plan.tag then .ok [spec .signature plan.actors plan.quota]
    else if Tag.isSequential plan.tag then
      .ok (plan.actors.map fun actor => spec .signature [actor] (.int 1))
    else .error (.unknownSigningProcess plan.tag)
  | .standard .expedition => .ok [spec .expedition plan.actors (.int plan.actors.length)]
  | .foreign role => .error (.foreignRole plan.place role)

end StepPlan

namespace Draft

def start (history : History) : Draft := ⟨[], history, []⟩

def addStep (draft : Draft) (setting : Setting) (documents : List Value) (place : Nat)
    (item : StepItem) : Except BuildError Draft := do
  let plan ← setting.plan place item
  let history ← History.carryOut place plan.role.recorded plan.actors documents draft.history
  let specs ← plan.specs documents
  return ⟨Value.unique (draft.actors ++ plan.actors), history,
    draft.nodes ++ specs.map NodeSpec.node⟩

def addSteps (setting : Setting) (documents : List Value) :
    Nat → List StepItem → Draft → Except BuildError Draft
  | _, [], draft => .ok draft
  | place, item :: rest, draft => do
    addSteps setting documents (place + 1) rest (← draft.addStep setting documents place item)

end Draft

namespace Workflow

def checkDocuments (seen : List Value) : List Value → Except BuildError Unit
  | [] => .ok ()
  | document :: rest =>
    if !document.isIdentifier then .error (.misuse .notIdentifier)
    else if seen.contains document then .error (.repeatedDocument document)
    else checkDocuments (seen ++ [document]) rest

def documentIds : Option (List Value) → Except BuildError (List Value)
  | none => .error (.misuse .notCollection)
  | some [] => .error .noDocument
  | some documents => (checkDocuments [] documents).map fun _ => documents

def build (setting : Setting) (history : History) (steps : Option (List StepItem))
    (documents : Option (List Value)) : Except BuildError Workflow := do
  let ids ← documentIds documents
  match steps with
  | none => .error (.misuse .notCollection)
  | some [] => .error .noStep
  | some items =>
    let draft ← Draft.addSteps setting ids 0 items (.start history)
    return ⟨draft.actors, ids, ⟨draft.nodes, 0⟩⟩

def buildScenario (resolver : Resolver) (participants : List (String × Participant))
    (history : History) (scenario : Scenario) : Except BuildError Workflow := do
  (scenario.check resolver).mapError .scenario
  let format := (scenario.signatureFormat?.map fun f => Value.int f.number).getD .null
  build ⟨resolver, participants, format⟩ history scenario.steps scenario.documents

def entry (w : Workflow) (steps : Nat) : JournalEntry where
  level := .info
  text := s!"Built signing workflow: {steps} steps, {w.automaton.nodes.length} nodes, " ++
    s!"{w.actors.length} actors, {w.documents.length} documents"

end Workflow
end SignatureRouting
