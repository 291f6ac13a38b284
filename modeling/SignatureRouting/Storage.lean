import SignatureRouting.Automaton

/-!
Snapshots: an automaton as stored data. Writing gives an object with the nodes and the cursor.
Loading accepts whatever can be read in that form: whole numbers may be given as numerals or with a
fraction that is dropped, tags as any value that can be written, lists as any collection, and what
is done may be left out. Fields are read in a fixed order and the first complaint is reported.

The database column that holds an automaton has a declared type and converts snapshots on the way
in and out. An absent automaton is stored as an absent value.
-/
namespace SignatureRouting

inductive Complaint where
  | missing (field : String)
  | unknownRole (shown : String)
  | badNumeral (text : String)
  | overlong (o : Overlong)
  | undefined
  | wrongForm

inductive LoadError where
  | node (complaint : Complaint)
  | automaton (complaint : Complaint)
  | shape (e : ShapeError)
  | unbounded
  /-- A complaint cannot be put into words. -/
  | unsaid (o : Overlong)

/-- Reading a field ends with a complaint, with one that cannot be put into words, or with a number
that nothing can hold. -/
inductive FieldError where
  | complaint (c : Complaint)
  | unbounded
  | unsaid (o : Overlong)

/-- A complaint about a numeral shows no more than this many characters of it. -/
def shownNumeralLength : Nat := 200

namespace Complaint

def text : Complaint → String
  | missing field => quoted field
  | unknownRole shown => shown
  | badNumeral s =>
    "invalid literal for int() with base 10: " ++
      String.ofList ((quoted s).toList.take shownNumeralLength)
  | overlong o => o.text
  | undefined => "cannot convert float NaN to integer"
  | wrongForm => "TypeError"

end Complaint

namespace LoadError

def failure : LoadError → Failure
  | node c => .signing (.plain .internal ("Malformed automaton node: " ++ c.text))
  | automaton c => .signing (.plain .internal ("Malformed automaton: " ++ c.text))
  | shape e => e.failure
  | unbounded => .misuse .unbounded
  | unsaid o => .overlong o

def ofField (wrap : Complaint → LoadError) : FieldError → LoadError
  | .complaint c => wrap c
  | .unbounded => .unbounded
  | .unsaid o => .unsaid o

def ofNodeShape : ShapeError → LoadError
  | .notIdentifier => .node .wrongForm
  | e =>
    match e.failure with
    | .overlong o => .node (.overlong o)
    | _ => .shape e

def ofNode : LoadError → LoadError
  | unsaid o => automaton (.overlong o)
  | e => e

end LoadError

namespace Value

def complain {α : Type} (c : Complaint) : Except FieldError α := .error (.complaint c)

def required (v : Value) (name : String) : Except FieldError Value :=
  match v with
  | object _ =>
    match v.field? name with
    | some w => .ok w
    | none => complain (.missing name)
  | _ => complain .wrongForm

def wholeNumber : Value → Except FieldError Int
  | int n => .ok n
  | bool b => .ok (if b then 1 else 0)
  | float .undefined => complain .undefined
  | float x =>
    match x.truncate with
    | some n => .ok n
    | none => .error .unbounded
  | text s =>
    match readNumeral s.toList with
    | .ok n => .ok n
    | .error .malformed => complain (.badNumeral s)
    | .error (.overlong digits) => complain (.overlong (.read digits))
  | _ => complain .wrongForm

/-- The stored name of a role; what could never be a name is of the wrong form. -/
def storedRole (v : Value) : Except FieldError Role :=
  if v.isIdentifier then
    match Role.ofStoredName? v with
    | some role => .ok role
    | none =>
      match v.quoted with
      | .ok shown => complain (.unknownRole shown)
      | .error o => .error (.unsaid o)
  else complain .wrongForm

def storedTag (v : Value) : Except FieldError String :=
  match v.written with
  | .ok tag => .ok tag
  | .error o => complain (.overlong o)

def collection (v : Value) : Except FieldError (List Value) :=
  match v.elements? with
  | some items => .ok items
  | none => complain .wrongForm

def optionalCollection (v : Value) (name : String) : Except FieldError (List Value) :=
  match v.field? name with
  | some w => w.collection
  | none => .ok []

end Value

namespace Node

def toValue (n : Node) : Value :=
  .object [
    ("step_index", n.step),
    ("role_type", .text n.role.storedName),
    ("tag", n.tag),
    ("aids", .list n.actors),
    ("dids", .list n.documents),
    ("concerned_actors", n.quota),
    ("working_documents", .list (n.progress.map .list)),
    ("done_aids", .list n.doneActors),
    ("done_dids", .list n.doneDocuments)]

structure Parts where
  step : Value
  role : Role
  tag : Value
  actors : List Value
  documents : List Value
  quota : Value
  progress : List (List Value)
  doneActors : List Value
  doneDocuments : List Value

def Parts.read (v : Value) : Except FieldError Parts := do
  let step ← (← v.required "step_index").wholeNumber
  let role ← (← v.required "role_type").storedRole
  let tag ← (← v.required "tag").storedTag
  let actors ← (← v.required "aids").collection
  let documents ← (← v.required "dids").collection
  let quota ← (← v.required "concerned_actors").wholeNumber
  let progress ← (← (← v.required "working_documents").collection).mapM Value.collection
  let doneActors ← v.optionalCollection "done_aids"
  let doneDocuments ← v.optionalCollection "done_dids"
  return ⟨.int step, role, .text tag, actors, documents, .int quota, progress, doneActors,
    doneDocuments⟩

def Parts.node? (p : Parts) : Except ShapeError Node :=
  Node.withOpened ⟨p.step, p.role, p.tag, p.actors, [], p.quota, p.doneActors, p.doneDocuments⟩
    p.documents p.progress

def ofValue (v : Value) : Except LoadError Node := do
  let parts ← (Parts.read v).mapError (LoadError.ofField .node)
  parts.node?.mapError LoadError.ofNodeShape

instance : BEq Node := ⟨fun a b => a.toValue == b.toValue⟩

end Node

namespace Automaton

def toValue (a : Automaton) : Value :=
  .object [("nodes", .list (a.nodes.map Node.toValue)), ("index", .int a.index)]

def ofValue (v : Value) : Except LoadError Automaton := do
  let stored ← (v.required "nodes" >>= Value.collection).mapError (LoadError.ofField .automaton)
  let nodes ← (stored.mapM Node.ofValue).mapError LoadError.ofNode
  let index ← (v.required "index" >>= Value.wholeNumber).mapError (LoadError.ofField .automaton)
  (at? nodes index).mapError .shape

instance : BEq Automaton := ⟨fun a b => a.toValue == b.toValue⟩

end Automaton

namespace Storage

def columnType (dialect : String) : String := if dialect = "postgresql" then "JSONB" else "JSON"

def load (stored : Value) : Except LoadError (Option Automaton) :=
  match stored with
  | .null => .ok none
  | v => (Automaton.ofValue v).map some

def bind (automaton : Option Automaton) : Value :=
  match automaton with
  | some a => a.toValue
  | none => .null

end Storage
end SignatureRouting
