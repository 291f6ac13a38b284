import SignatureRouting.Signature
import SignatureRouting.Step

/-!
Scenarios: documents, signature settings and steps as authored. Checking a scenario collects every
complaint about its shape, and apart from these every contradiction between well-formed settings.
A scenario passes when there is neither. A numeral of too many digits is no complaint, nor is a
complaint that cannot be written; either ends the check at once.
-/
namespace SignatureRouting

structure Scenario where
  documents : Option (List Value)
  steps : Option (List StepItem)
  format : Value := .null
  level : Value := .null

inductive ScenarioError where
  | invalid (items : List String)
  | conflict (items : List String)
  | overlong (o : Overlong)
  | misuse (m : Misuse)

namespace ScenarioError

def failure : ScenarioError → Failure
  | invalid items => .signing (.scenarioInvalid items)
  | conflict items => .signing (.scenarioConflict items)
  | overlong o => .overlong o
  | misuse m => .misuse m

end ScenarioError

structure Complaints where
  shape : List String
  conflicts : List String
  deriving DecidableEq, Repr

namespace Complaints

def none : Complaints := ⟨[], []⟩

def append (a b : Complaints) : Complaints := ⟨a.shape ++ b.shape, a.conflicts ++ b.conflicts⟩

instance : Append Complaints := ⟨append⟩

def ofShape (items : List String) : Complaints := ⟨items, []⟩

def shapeIf (p : Bool) (item : String) : Complaints := if p then ofShape [item] else none

def collect (found : List (Except Overlong Complaints)) : Except Overlong Complaints := do
  return (← found.mapM id).foldl (· ++ ·) none

end Complaints

namespace Step

def processComplaints (step : Step) (i : Nat) (resolution : Resolution) :
    Except Overlong Complaints :=
  let bad := do return .ofShape [s!"bad step[{i}].process tag '{← step.process.written}'"]
  match resolution with
  | .unset => return .ofShape [s!"step[{i}].process"]
  | .unknown => bad
  | .found _ => do if (← step.tag?) = Tag.sign then bad else return .none

def signatureComplaints (step : Step) (i : Nat) (format : Value) : Except Overlong Complaints :=
  match SignatureType.ofSetting? step.signatureType with
  | none => do
    return .ofShape [s!"bad step[{i}].signatureType:{← step.signatureType.written}"]
  | some type =>
    let known := ((SignatureFormat.ofSetting? format).map fun f => Value.int f.number).getD .null
    if type.isCompatible known then return .none
    else do
      return ⟨[], [s!"bad step[{i}].signatureType/format:{type.number}/{← format.written}"]⟩

def cardinalityComplaints (step : Step) (i : Nat) : Except Overlong Complaints :=
  match step.cardinality with
  | .settled _ => return .none
  | .authored raw =>
    match Cardinality.parse raw with
    | .ok _ => return .none
    | .error (.unreadable _) => do
      return .ofShape [s!"bad step[{i}].cardinality:{← raw.quoted}"]
    | .error (.overlong o) => .error o

def complaints (step : Step) (i : Nat) (resolver : Resolver) (format : Value) :
    Except Overlong Complaints :=
  let resolution := resolver.resolve step.process
  Complaints.collect [step.processComplaints i resolution,
    match resolution with
    | .found (.standard .signature) => step.signatureComplaints i format
    | _ => return .none,
    step.cardinalityComplaints i,
    return .shapeIf (step.participants.any List.isEmpty) s!"step[{i}].participants"]

end Step

def StepItem.complaints (item : StepItem) (i : Nat) (resolver : Resolver) (format : Value) :
    Except Overlong Complaints :=
  match item with
  | step s => s.complaints i resolver format
  | other _ => return .ofShape [s!"bad step[{i}] definition"]

namespace Scenario

def signatureFormat? (scenario : Scenario) : Option SignatureFormat :=
  SignatureFormat.ofSetting? scenario.format

def settingComplaints (scenario : Scenario) : Complaints :=
  .shapeIf scenario.signatureFormat?.isNone "bad signature format" ++
    .shapeIf (SignatureLevel.ofSetting? scenario.level).isNone "bad signature level" ++
    .shapeIf (scenario.documents.any List.isEmpty) "documents"

def stepComplaints (scenario : Scenario) (resolver : Resolver) (steps : List StepItem) :
    Except Overlong Complaints :=
  Complaints.collect (steps.mapIdx fun i item => item.complaints i resolver scenario.format)

def validate (scenario : Scenario) (resolver : Resolver) : Except ScenarioError Complaints :=
  match scenario.steps with
  | none => .error (.misuse .notCollection)
  | some [] => .ok (scenario.settingComplaints ++ .ofShape ["steps"])
  | some steps => do
    let found ← (scenario.stepComplaints resolver steps).mapError .overlong
    return scenario.settingComplaints ++ found

/-- Complaints about the shape go before contradictions. -/
def check (scenario : Scenario) (resolver : Resolver) : Except ScenarioError Unit :=
  match scenario.validate resolver with
  | .error e => .error e
  | .ok complaints =>
    if !complaints.shape.isEmpty then .error (.invalid complaints.shape)
    else if !complaints.conflicts.isEmpty then .error (.conflict complaints.conflicts)
    else .ok ()

end Scenario
end SignatureRouting
