import SignatureRouting.Scenario

/-!
Why a workflow cannot be built. Each cause carries the place of the step it was found at and the
data that its message shows. A refusal is the caller's to correct, except where a foreign resolver
hands out a role for which no node can be made.
-/
namespace SignatureRouting

inductive BuildError where
  | noDocument
  | repeatedDocument (document : Value)
  | noStep
  | missingProcess (place : Nat)
  | badProcess (place : Nat) (process : Value)
  | badSignatureType (place : Nat) (authored : Value)
  | incompatibleSignature (place : Nat) (type : SignatureType) (format : Value)
  | noParticipant (place : Nat)
  | unknownParticipant (reference : Value)
  | repeatedParticipant (place : Nat) (reference : Value)
  | notEntitled (reference : Value) (tag : String) (role : Role)
  | badCardinality (shown : Value)
  | unfitCardinality (place : Nat) (quota : Value) (tag : String)
  | alreadySigned (place : Nat) (document : Value)
  | notSigned (place : Nat) (document : Value)
  | repeatedAction (place : Nat) (actor document : Value) (role : Role)
  | unknownSigningProcess (tag : String)
  | foreignRole (place : Nat) (role : Value)
  | scenario (e : ScenarioError)
  /-- A numeral that is not read, or an integer that is not written, where no message is made. -/
  | overlong (o : Overlong)
  | misuse (m : Misuse)

namespace BuildError

def ofCardinality : Cardinality.Malformed → BuildError
  | .unreadable shown => badCardinality shown
  | .overlong o => overlong o

def shown : BuildError → List Value
  | repeatedDocument document => [document]
  | badProcess _ process => [process]
  | badSignatureType _ authored => [authored]
  | incompatibleSignature _ _ format => [format]
  | unknownParticipant reference => [reference]
  | repeatedParticipant _ reference => [reference]
  | notEntitled reference tag role => [reference, .text role.verb, .text tag]
  | badCardinality shown => [shown]
  | unfitCardinality _ quota _ => [quota]
  | alreadySigned _ document => [document]
  | notSigned _ document => [document]
  | repeatedAction _ actor document _ => [actor, document]
  | foreignRole _ role => [role]
  | _ => []

def badRequest (message : Except Overlong String) : Failure := .ofMessage .badRequest message

def conflict (message : Except Overlong String) : Failure := .ofMessage .conflict message

def failure : BuildError → Failure
  | noDocument => badRequest (return "A workflow needs at least one document")
  | repeatedDocument document =>
    conflict do return s!"Document {← document.written} cannot be added twice"
  | noStep => badRequest (return "A workflow needs at least one step")
  | missingProcess place => badRequest (return s!"step[{place}].process is missing")
  | badProcess place process =>
    badRequest do return s!"bad step[{place}].process tag '{← process.written}'"
  | badSignatureType place authored =>
    badRequest do return s!"bad step[{place}].signatureType:{← authored.written}"
  | incompatibleSignature place type format =>
    conflict do
      return s!"bad step[{place}].signatureType/format:{type.number}/{← format.written}"
  | noParticipant place => badRequest (return s!"step[{place}] has no participant")
  | unknownParticipant reference => (SigningError.participantNotFound reference).raised
  | repeatedParticipant place reference =>
    badRequest do return s!"Actor '{← reference.written}' is used twice in step[{place}]"
  | notEntitled reference tag role =>
    (SigningError.actorNotPermitted reference (.text tag) (.text role.verb)).raised
  | badCardinality shown => badRequest do return s!"Bad cardinality {← shown.quoted}"
  | unfitCardinality place quota tag =>
    conflict do
      return s!"bad step[{place}].cardinality ({← quota.written}) with process {tag}"
  | alreadySigned place document =>
    conflict do
      return s!"step[{place}]: cannot approve document {← document.written} " ++
        "because it is already signed"
  | notSigned place document =>
    conflict do
      return s!"step[{place}]: cannot send document {← document.written} " ++
        "because it is not signed"
  | repeatedAction place actor document role =>
    conflict do
      return s!"step[{place}]: actor {← actor.written} cannot {role.verb} " ++
        s!"document {← document.written} twice"
  | unknownSigningProcess tag => badRequest (return s!"Signing process '{tag}' not found")
  | foreignRole place role =>
    .ofMessage .internal do
      return s!"Unsupported role type {← role.quoted} for step[{place}]"
  | scenario e => e.failure
  | overlong o => .overlong o
  | misuse m => .misuse m

end BuildError
end SignatureRouting
