import SignatureRouting.Number.Numeral
import SignatureRouting.Text.Quoted
import SignatureRouting.Value

/-!
The written form of a value, as it stands in messages and tags. A text on its own is written as it
is; inside a collection, or where a value is shown as authored, it is quoted. A value that holds an
integer beyond the limit, itself or anywhere inside, has no written form.
-/
namespace SignatureRouting.Value

mutual

def quoted : Value → Except Overlong String
  | null => .ok "None"
  | bool b => .ok (if b then "True" else "False")
  | int n => writeInteger n
  | float x => .ok x.text
  | text s => .ok (SignatureRouting.quoted s)
  | list items => do return "[" ++ ", ".intercalate (← quotedItems items) ++ "]"
  | object fields => do return "\x7b" ++ ", ".intercalate (← quotedFields fields) ++ "\x7d"

def quotedItems : List Value → Except Overlong (List String)
  | [] => .ok []
  | v :: rest => do return (← quoted v) :: (← quotedItems rest)

def quotedFields : List (String × Value) → Except Overlong (List String)
  | [] => .ok []
  | (name, v) :: rest => do
    return (SignatureRouting.quoted name ++ ": " ++ (← quoted v)) :: (← quotedFields rest)

end

def written : Value → Except Overlong String
  | text s => .ok s
  | v => v.quoted

mutual

def isWritable : Value → Bool
  | int n => isWithinLimit n
  | list items => itemsWritable items
  | object fields => fieldsWritable fields
  | _ => true

def itemsWritable : List Value → Bool
  | [] => true
  | v :: rest => isWritable v && itemsWritable rest

def fieldsWritable : List (String × Value) → Bool
  | [] => true
  | (_, v) :: rest => isWritable v && fieldsWritable rest

end

mutual

theorem writesIf_quoted : (v : Value) → WritesIf v.quoted v.isWritable
  | null => ⟨_, rfl⟩
  | bool b => ⟨_, rfl⟩
  | int n => by
    rw [quoted, isWritable]
    exact writesIf_writeInteger n
  | float x => ⟨_, rfl⟩
  | text s => ⟨_, rfl⟩
  | list items => by
    rw [quoted, isWritable]
    exact (writesIf_quotedItems items).map _
  | object fields => by
    rw [quoted, isWritable]
    exact (writesIf_quotedFields fields).map _

theorem writesIf_quotedItems : (items : List Value) →
    WritesIf (quotedItems items) (itemsWritable items)
  | [] => ⟨_, rfl⟩
  | v :: rest => by
    rw [quotedItems, itemsWritable]
    exact (writesIf_quoted v).bind fun _ => (writesIf_quotedItems rest).map _

theorem writesIf_quotedFields : (fields : List (String × Value)) →
    WritesIf (quotedFields fields) (fieldsWritable fields)
  | [] => ⟨_, rfl⟩
  | (name, v) :: rest => by
    rw [quotedFields, fieldsWritable]
    exact (writesIf_quoted v).bind fun _ => (writesIf_quotedFields rest).map _

end

theorem writesIf_written (v : Value) : WritesIf v.written v.isWritable := by
  cases v with
  | text s => exact ⟨s, rfl⟩
  | _ => exact writesIf_quoted _

end SignatureRouting.Value
