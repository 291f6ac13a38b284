import SignatureRouting.Value

/-!
What can be refused, and how callers tell refusals apart. A `SigningError` belongs to a class, and
its class fixes the category, the status and the code that are reported. A `Misuse` is a value of a
form that cannot serve where it stands.
-/
namespace SignatureRouting

/-- A value of a form that cannot serve where it stands. -/
inductive Misuse where
  | notIdentifier
  | notCollection
  /-- The fields of a record are not the ones it has. -/
  | badFields
  /-- A text is needed, as a part of a message or in place of a number. -/
  | notText
  | categoryNotText
  | notStep
  | notListed
  /-- An infinite number has no integer part. -/
  | unbounded
  | notNumber
  | notPlace
  | outside
  deriving DecidableEq, Repr

inductive Category where
  | badRequest
  | forbidden
  | notFound
  | conflict
  | internal
  deriving DecidableEq, Repr

inductive SigningError where
  /-- An error of no particular category; an empty detail stands for the default message. -/
  | general (detail : String)
  | plain (category : Category) (detail : String)
  | terminated (detail : String)
  | wrongTag (expected received : Value)
  | actorNotEligible (actor : Value)
  | documentNotActionable (document actor reason : Value)
  | scenarioInvalid (items : List String)
  | scenarioConflict (items : List String)
  | actorNotPermitted (participant tag verb : Value)
  | participantNotFound (participant : Value)
  | splitNotAllowed

namespace Category

def all : List Category := [badRequest, forbidden, notFound, conflict, internal]

def name : Category → String
  | badRequest => "BadRequestError"
  | forbidden => "ForbiddenError"
  | notFound => "NotFoundError"
  | conflict => "ConflictError"
  | internal => "InternalError"

def status : Category → Nat
  | badRequest => 400
  | forbidden => 403
  | notFound => 404
  | conflict => 409
  | internal => 500

def code : Category → String
  | badRequest => "ERR_BAD_REQUEST"
  | forbidden => "ERR_FORBIDDEN"
  | notFound => "ERR_NOT_FOUND"
  | conflict => "ERR_CONFLICT"
  | internal => "INTERNAL_ERROR"

def defaultMessage : Category → String
  | badRequest => "Bad request"
  | forbidden => "Forbidden"
  | notFound => "Not found"
  | conflict => "Conflict"
  | internal => "Internal error"

end Category

namespace SigningError

def category? : SigningError → Option Category
  | general _ => none
  | plain c _ => some c
  | terminated _ => some .conflict
  | wrongTag .. => some .conflict
  | actorNotEligible _ => some .conflict
  | documentNotActionable .. => some .conflict
  | scenarioInvalid _ => some .badRequest
  | scenarioConflict _ => some .conflict
  | actorNotPermitted .. => some .forbidden
  | participantNotFound _ => some .notFound
  | splitNotAllowed => some .conflict

def category (e : SigningError) : Category := e.category?.getD .internal

def className : SigningError → String
  | general _ => "SigningError"
  | plain c _ => c.name
  | terminated _ => "WorkflowTerminatedError"
  | wrongTag .. => "WrongProcessTagError"
  | actorNotEligible _ => "ActorNotEligibleError"
  | documentNotActionable .. => "DocumentNotActionableError"
  | scenarioInvalid _ => "ScenarioValidationError"
  | scenarioConflict _ => "ScenarioConflictError"
  | actorNotPermitted .. => "ActorPermissionError"
  | participantNotFound _ => "ParticipantNotFoundError"
  | splitNotAllowed => "SplitNotAllowedError"

def items? : SigningError → Option (List String)
  | scenarioInvalid items => some items
  | scenarioConflict items => some items
  | _ => none

def attributes : SigningError → List (String × Value)
  | wrongTag expected received => [("expected", expected), ("received", received)]
  | actorNotEligible actor => [("actor_id", actor)]
  | documentNotActionable document actor reason =>
    [("document_id", document), ("actor_id", actor), ("reason", reason)]
  | actorNotPermitted participant tag _ => [("participant", participant), ("tag", tag)]
  | participantNotFound participant => [("participant", participant)]
  | _ => []

end SigningError

end SignatureRouting
