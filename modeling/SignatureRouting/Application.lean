import SignatureRouting.Tag

/-!
Setting up an application. A configuration names the tag categories, the keys under which the
policy and the builder are provided, and whether signing errors are rendered. Nothing is available
before the application starts, and where both keys are equal the builder is what is provided.
-/
namespace SignatureRouting

structure Configuration where
  categories : Value := .list []
  policyKey : Value := .text "tag_policy"
  builderKey : Value := .text "workflow_builder"
  rendersErrors : Bool := true

inductive Provided where
  | policy
  | builder
  deriving DecidableEq, Repr

structure Application where
  configuration : Configuration
  started : Option TagPolicy := none

namespace Provided

def name : Provided → String
  | policy => "TagPolicy"
  | builder => "WorkflowBuilder"

end Provided

namespace Configuration

def policy (c : Configuration) : Except PolicyError TagPolicy :=
  TagPolicy.ofValue c.categories

/-- What is provided, by key. The policy comes first, and of two equal keys the first is kept. -/
def provided (c : Configuration) : List (Value × Provided) :=
  if c.policyKey == c.builderKey then [(c.policyKey, .builder)]
  else [(c.policyKey, .policy), (c.builderKey, .builder)]

def provided? (c : Configuration) : Except Misuse (List (Value × Provided)) :=
  if c.policyKey.isIdentifier && c.builderKey.isIdentifier then .ok c.provided
  else .error .notIdentifier

def handled (c : Configuration) : List String :=
  if c.rendersErrors then [(SigningError.general "").className] else []

end Configuration

namespace Application

def start (a : Application) : Except PolicyError Application := do
  return { a with started := some (← a.configuration.policy) }

def policy (a : Application) : Except Failure TagPolicy :=
  match a.started with
  | some policy => .ok policy
  | none => .error (.notInitialized "policy")

def builder (a : Application) : Except Failure Resolver :=
  match a.started with
  | some policy => .ok policy.resolver
  | none => .error (.notInitialized "builder")

end Application
end SignatureRouting
