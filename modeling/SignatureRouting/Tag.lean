import SignatureRouting.Rendering
import SignatureRouting.Text.Character

/-!
Process tags and the roles they stand for. A step requires one of three kinds of action, and its
process tag says which. Authors may write a tag in any case and with blanks around it; its normal
form is trimmed and in lower case. Signature and expedition tags are fixed, approval tags are the
built-in one and the categories that a configuration adds, and `sign` is an entitlement that no
step can have as its process.

A resolver is whatever answers, in place of a policy, which role a tag requires and who is entitled
to it. It may hand out a value that is none of the three roles; it is kept as given, because the
message that refuses it shows it.
-/
namespace SignatureRouting

inductive Role where
  | approval
  | signature
  | expedition
  deriving DecidableEq, Repr

namespace Role

def all : List Role := [approval, signature, expedition]

def word : Role → String
  | approval => "approval"
  | signature => "signature"
  | expedition => "expedition"

def storedName : Role → String
  | approval => "APPROVAL"
  | signature => "SIGNATURE"
  | expedition => "EXPEDITION"

def ofWord? : Value → Option Role
  | .text s => all.find? (·.word == s)
  | _ => none

def ofStoredName? : Value → Option Role
  | .text s => all.find? (·.storedName == s)
  | _ => none

theorem ofWord?_word (r : Role) : ofWord? (.text r.word) = some r := by cases r <;> rfl

theorem ofStoredName?_storedName (r : Role) : ofStoredName? (.text r.storedName) = some r := by
  cases r <;> rfl

end Role

inductive StepRole where
  | standard (role : Role)
  | foreign (value : Value)

inductive Resolution where
  | unset
  | unknown
  | found (role : StepRole)

def Role.verb : Role → String
  | approval => "approve"
  | signature => "sign"
  | expedition => "send"

def normalize (s : String) : String := String.ofList (lower (trim s.toList))

namespace Tag

def approval : String := "approval"
def sign : String := "sign"
def cosign : String := "cosign"
def countersign : String := "countersign"
def orderedCosign : String := "ordered-cosign"
def individualSign : String := "individual-sign"
def recipient : String := "to"
def copyRecipient : String := "cc"

def signatureTags : List String := [sign, cosign, countersign, orderedCosign, individualSign]

def expeditionTags : List String := [recipient, copyRecipient]

def builtIn : List String := approval :: (signatureTags ++ expeditionTags)

def isSequential (tag : String) : Bool := tag == countersign || tag == orderedCosign

def isShared (tag : String) : Bool := tag == individualSign || tag == cosign

theorem built_in_nodup : builtIn.Nodup := by decide

end Tag

structure TagPolicy where
  approvalTags : List String
  deriving DecidableEq, Repr

structure Resolver where
  resolve : Value → Resolution
  isEntitled : StepRole → Value → List Value → Bool

inductive PolicyError where
  | repeatedCategories (categories : List String)
  | misuse (m : Misuse)

namespace PolicyError

def failure : PolicyError → Failure
  | repeatedCategories categories => .repeatedCategories categories
  | misuse m => .misuse m

end PolicyError

namespace TagPolicy

def builtIn : TagPolicy := ⟨[Tag.approval]⟩

def isTaken (approvalTags : List String) (tag : String) : Bool :=
  tag.isEmpty || Tag.builtIn.contains tag || approvalTags.contains tag

def collect (approvalTags : List String) : List String → List String × List String
  | [] => (approvalTags, [])
  | category :: rest =>
    let tag := normalize category
    if isTaken approvalTags tag then
      let r := collect approvalTags rest
      (r.1, category :: r.2)
    else collect (approvalTags ++ [tag]) rest

def ofCategories (categories : List String) : Except PolicyError TagPolicy :=
  match collect [Tag.approval] categories with
  | (approvalTags, []) => .ok ⟨approvalTags⟩
  | (_, refused) => .error (.repeatedCategories refused)

def categoryText : Value → Except PolicyError String
  | .text s => .ok s
  | _ => .error (.misuse .categoryNotText)

def ofValue (categories : Value) : Except PolicyError TagPolicy :=
  match categories.elements? with
  | none => .error (.misuse .notCollection)
  | some values => do ofCategories (← values.mapM categoryText)

def resolveTag (policy : TagPolicy) (tag : String) : Resolution :=
  if tag.isEmpty then .unset
  else if Tag.signatureTags.contains tag then .found (.standard .signature)
  else if policy.approvalTags.contains tag then .found (.standard .approval)
  else if Tag.expeditionTags.contains tag then .found (.standard .expedition)
  else .unknown

/-- An absent tag is unset, and a tag that is no text is unknown. -/
def resolve (policy : TagPolicy) : Value → Resolution
  | .null => .unset
  | .text s => policy.resolveTag (normalize s)
  | _ => .unknown

/-- The step's own tag always entitles; approval and signature steps have a generic tag too. -/
def isEntitled (role : StepRole) (tag : Value) (roleTags : List Value) : Bool :=
  roleTags.contains tag ||
    match role with
    | .standard .approval => roleTags.contains (.text Tag.approval)
    | .standard .signature => roleTags.contains (.text Tag.sign)
    | _ => false

def resolver (policy : TagPolicy) : Resolver := ⟨policy.resolve, isEntitled⟩

def text (policy : TagPolicy) : String :=
  let tags := ", ".intercalate (policy.approvalTags.map quoted)
  let comma := if policy.approvalTags.length = 1 then "," else ""
  s!"TagPolicy(approval_tags=({tags}{comma}))"

end TagPolicy

namespace Resolver

def answer : Value → Resolution
  | .null => .unknown
  | .text "unset" => .unset
  | v =>
    match Role.ofWord? v with
    | some role => .found (.standard role)
    | none => .found (.foreign v)

/-- A resolver that answers for some tags itself, may decide every entitlement alike, and leaves
the rest to another. -/
def overriding (base : Resolver) (roles : List (String × Value)) (entitled : Option Bool) :
    Resolver where
  resolve tag :=
    match tag with
    | .text s => ((roles.find? (·.1 == s)).map fun r => answer r.2).getD (base.resolve tag)
    | _ => base.resolve tag
  isEntitled role tag roleTags := entitled.getD (base.isEntitled role tag roleTags)

end Resolver

end SignatureRouting
