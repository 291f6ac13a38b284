import SignatureRouting.Rendering

/-!
Signing errors by the name of their class. Each class takes a fixed number of arguments, except
that a message may be left out; a message that is not given is the default one. A message that is
no text is taken in its written form.
-/
namespace SignatureRouting.SigningError

def detail (message : Value) : Except Misuse String :=
  if message.isGiven then message.written.mapError fun _ => .notText else .ok ""

def withDetail (make : String → SigningError) : List Value → Except Misuse SigningError
  | [] => .ok (make "")
  | [message] => (detail message).map make
  | _ => .error .badFields

def complaint : Value → Except Misuse String
  | .text s => .ok s
  | _ => .error .notText

def withItems (make : List String → SigningError) : List Value → Except Misuse SigningError
  | [items] =>
    match items.elements? with
    | some values => (values.mapM complaint).map make
    | none => .error .notCollection
  | _ => .error .badFields

def withOne (make : Value → SigningError) : List Value → Except Misuse SigningError
  | [a] => .ok (make a)
  | _ => .error .badFields

/-- The error of a class built from its arguments, or `none` if there is no such class. -/
def named? (className : String) (arguments : List Value) : Option (Except Misuse SigningError) :=
  match className with
  | "SigningError" => some (withDetail general arguments)
  | "WorkflowTerminatedError" => some (withDetail terminated arguments)
  | "WrongProcessTagError" => some <|
    match arguments with
    | [expected, received] => .ok (wrongTag expected received)
    | _ => .error .badFields
  | "ActorNotEligibleError" => some (withOne actorNotEligible arguments)
  | "DocumentNotActionableError" => some <|
    match arguments with
    | [document, actor, reason] => .ok (documentNotActionable document actor reason)
    | _ => .error .badFields
  | "ScenarioValidationError" => some (withItems scenarioInvalid arguments)
  | "ScenarioConflictError" => some (withItems scenarioConflict arguments)
  | "ActorPermissionError" => some <|
    match arguments with
    | [participant, tag, verb] => .ok (actorNotPermitted participant tag verb)
    | _ => .error .badFields
  | "ParticipantNotFoundError" => some (withOne participantNotFound arguments)
  | "SplitNotAllowedError" => some <|
    match arguments with
    | [] => .ok splitNotAllowed
    | _ => .error .badFields
  | name => (Category.all.find? (·.name == name)).map fun c => withDetail (plain c) arguments

end SignatureRouting.SigningError
