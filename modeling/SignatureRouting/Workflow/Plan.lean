import SignatureRouting.History
import SignatureRouting.Value.Order
import SignatureRouting.Workflow.Error

/-!
What one authored step comes to: its tag in normal form, its role, its actors and its quota. The
step is checked in this order: process, signature type, participants, cardinality; and the first
fault refuses it.

Steps have to be coherent with what was done before. Nobody acts on a document in one role twice,
nothing is approved once it is signed, and nothing is sent before it is signed. The steps of a
workflow are recorded one after the other as if they had been carried out, so that later steps are
checked against earlier ones.
-/
namespace SignatureRouting

structure Participant where
  actor : Value
  roleTags : List Value

structure Setting where
  resolver : Resolver
  participants : List (String × Participant)
  /-- The signature format, compared as given; null where none is known. -/
  format : Value := .null

structure StepPlan where
  place : Nat
  tag : String
  role : StepRole
  actors : List Value
  quota : Value

namespace StepRole

/-- The role under which an action is recorded. A foreign role counts as an expedition. -/
def recorded : StepRole → Role
  | standard role => role
  | foreign _ => .expedition

def refusal (role : StepRole) (reference : Value) (tag : String) : BuildError :=
  match role with
  | standard role => .notEntitled reference tag role
  | foreign v => .misuse (if v.isIdentifier then .notListed else .notIdentifier)

end StepRole

namespace Setting

def participant? (setting : Setting) : Value → Option Participant
  | .text name => (setting.participants.find? (·.1 == name)).map (·.2)
  | _ => none

def actorsAfter (setting : Setting) (place : Nat) (role : StepRole) (tag : String)
    (before : List Value) : List Value → Except BuildError (List Value)
  | [] => .ok before
  | reference :: rest =>
    if !reference.isIdentifier then .error (.misuse .notIdentifier)
    else match setting.participant? reference with
      | none => .error (.unknownParticipant reference)
      | some p =>
        if before.contains p.actor then .error (.repeatedParticipant place reference)
        else if !setting.resolver.isEntitled role (.text tag) p.roleTags then
          .error (role.refusal reference tag)
        else setting.actorsAfter place role tag (before ++ [p.actor]) rest

def actors (setting : Setting) (place : Nat) (step : Step) (role : StepRole) :
    Except BuildError (List Value) :=
  match step.participants with
  | none => .error (.misuse .notCollection)
  | some [] => .error (.noParticipant place)
  | some references => do
    let actors ← setting.actorsAfter place role step.tag [] references
    if actors.all Value.isIdentifier then return actors else .error (.misuse .notIdentifier)

def checkSignatureType (setting : Setting) (place : Nat) (step : Step) : Except BuildError Unit :=
  match SignatureType.ofValue? step.signatureType with
  | none => .error (.badSignatureType place step.signatureType)
  | some type =>
    if type.isCompatible setting.format then .ok ()
    else .error (.incompatibleSignature place type setting.format)

/-- The tag is written before anything else, whether it is needed or not. -/
def role (setting : Setting) (place : Nat) (step : Step) : Except BuildError StepRole := do
  let tag ← step.tag?.mapError .overlong
  match setting.resolver.resolve step.process with
  | .unset => .error (.missingProcess place)
  | .unknown => .error (.badProcess place step.process)
  | .found role =>
    if tag = Tag.sign then .error (.badProcess place step.process) else return role

def quotaFits (tag : String) (quota : Value) (actors : Nat) : Bool :=
  !quota.lt (.int 1) && !(Value.int actors).lt quota &&
    (!Tag.isSequential tag || quota.equals (.int actors))

def quota (place : Nat) (step : Step) (role : StepRole) (actors : Nat) :
    Except BuildError Value := do
  let quota ← (step.quota role (.int actors)).mapError BuildError.ofCardinality
  if !quota.isNumber then .error (.misuse .notNumber)
  else if quotaFits step.tag quota actors then return quota
  else .error (.unfitCardinality place quota step.tag)

def planStep (setting : Setting) (place : Nat) (step : Step) : Except BuildError StepPlan := do
  let role ← setting.role place step
  match role with
  | .standard .signature => setting.checkSignatureType place step
  | _ => pure ()
  let actors ← setting.actors place step role
  let quota ← quota place step role actors.length
  return ⟨place, step.tag, role, actors, quota⟩

def plan (setting : Setting) (place : Nat) : StepItem → Except BuildError StepPlan
  | .step step => setting.planStep place step
  | .other _ => .error (.misuse .notStep)

end Setting

namespace History

def checkState (h : History) (place : Nat) (role : Role) (document : Value) :
    Except BuildError Unit :=
  let signers := (h.tally document).signers
  match role with
  | .approval => if signers.isEmpty then .ok () else .error (.alreadySigned place document)
  | .signature => .ok ()
  | .expedition => if signers.isEmpty then .error (.notSigned place document) else .ok ()

def checkActors (h : History) (place : Nat) (role : Role) (document : Value) :
    List Value → Except BuildError Unit
  | [] => .ok ()
  | actor :: rest =>
    if ((h.tally document).actors role).contains actor then
      .error (.repeatedAction place actor document role)
    else h.checkActors place role document rest

def recordAll (h : History) (document : Value) (role : Role) (actors : List Value) : History :=
  actors.foldl (fun h actor => h.record document actor role) h

/-- Records one step on each document in turn, unless it does not fit with what was done. -/
def carryOut (place : Nat) (role : Role) (actors : List Value) :
    List Value → History → Except BuildError History
  | [], h => .ok h
  | document :: rest, h => do
    h.checkState place role document
    h.checkActors place role document actors
    carryOut place role actors rest (h.recordAll document role actors)

end History
end SignatureRouting
