import SignatureRouting.Tag

/-!
The signing history of a session: for each document, in the order in which documents were first
recorded, the actors who approved it, signed it and sent it. Documents and actors are compared as
values, and an actor is kept once per document and role.
-/
namespace SignatureRouting

structure Tally where
  approvers : List Value
  signers : List Value
  expeditors : List Value

structure Record where
  document : Value
  actor : Value
  role : Role

structure History where
  entries : List (Value × Tally)

def Value.insertInto (v : Value) (l : List Value) : List Value :=
  if l.contains v then l else l ++ [v]

namespace Tally

def empty : Tally := ⟨[], [], []⟩

def actors (t : Tally) : Role → List Value
  | .approval => t.approvers
  | .signature => t.signers
  | .expedition => t.expeditors

def add (t : Tally) (actor : Value) : Role → Tally
  | .approval => { t with approvers := actor.insertInto t.approvers }
  | .signature => { t with signers := actor.insertInto t.signers }
  | .expedition => { t with expeditors := actor.insertInto t.expeditors }

def ofActors (approvers signers expeditors : List Value) : Option Tally := do
  return ⟨← Value.unique? approvers, ← Value.unique? signers, ← Value.unique? expeditors⟩

def add? (t : Tally) (actor : Value) (role : Role) : Except Misuse Tally :=
  if actor.isIdentifier then .ok (t.add actor role) else .error .notIdentifier

theorem actors_add (t : Tally) (actor : Value) (role : Role) :
    (t.add actor role).actors role = actor.insertInto (t.actors role) := by
  cases role <;> rfl

theorem actors_add_of_ne (t : Tally) (actor : Value) {role other : Role} (h : other ≠ role) :
    (t.add actor role).actors other = t.actors other := by
  cases role <;> cases other <;> first | rfl | exact absurd rfl h

end Tally

namespace History

def empty : History := ⟨[]⟩

def documents (h : History) : List Value := h.entries.map (·.1)

def tally (h : History) (document : Value) : Tally := (h.entries.lookup document).getD .empty

def contains (h : History) (document : Value) : Bool := h.documents.contains document

def put (document : Value) (tally : Tally) : List (Value × Tally) → List (Value × Tally)
  | [] => [(document, tally)]
  | (d, t) :: rest =>
    if document == d then (d, tally) :: rest else (d, t) :: put document tally rest

def record (h : History) (document actor : Value) (role : Role) : History :=
  ⟨put document ((h.tally document).add actor role) h.entries⟩

def enlist (h : History) (document : Value) : History :=
  if h.contains document then h else ⟨h.entries ++ [(document, .empty)]⟩

/-- Records an action if its document and its actor are identifiers. A document that is one is
listed even when the actor is refused. -/
def attempt (h : History) (r : Record) : History × Option Misuse :=
  if !r.document.isIdentifier then (h, some .notIdentifier)
  else if !r.actor.isIdentifier then (h.enlist r.document, some .notIdentifier)
  else (h.record r.document r.actor r.role, none)

def record? (h : History) (r : Record) : Except Misuse History :=
  match h.attempt r with
  | (after, none) => .ok after
  | (_, some m) => .error m

def ofRecords? (records : List Record) : Except Misuse History :=
  records.foldlM record? empty

def ofRecords (records : List Record) : History :=
  records.foldl (fun h r => h.record r.document r.actor r.role) empty

/-- A history of given tallies, in which the last tally of a document counts. -/
def ofTallies? (tallies : List (Value × Tally)) : Except Misuse History :=
  if tallies.all (·.1.isIdentifier) then
    .ok ⟨tallies.foldl (fun entries e => put e.1 e.2 entries) []⟩
  else .error .notIdentifier

def tally? (h : History) (document : Value) : Except Misuse Tally :=
  if document.isIdentifier then .ok (h.tally document) else .error .notIdentifier

def contains? (h : History) (document : Value) : Except Misuse Bool :=
  if document.isIdentifier then .ok (h.contains document) else .error .notIdentifier

end History
end SignatureRouting
