import Highlighter.Toml.Document

/-! Taking TOML values apart. A record can be written as a table, or as an array that gives the
fields by position; keys and positions that no field has are passed over. -/
namespace Highlighter.Toml

def asString : Value → Except Fault String
  | .string text => .ok text
  | _ => .error (.wrongKind "a string")

def asBool : Value → Except Fault Bool
  | .boolean b => .ok b
  | _ => .error (.wrongKind "a truth value")

def asNat : Value → Except Fault Nat
  | .integer n => if n < 0 then .error (.wrongKind "a natural number") else .ok n.toNat
  | _ => .error (.wrongKind "a natural number")

/-- The items of an array, each read by `item`. -/
def asList {α : Type} (item : Value → Except Fault α) : Value → Except Fault (List α)
  | .array items => items.mapM item
  | .tables rows => rows.mapM fun row => item (.table .header row)
  | _ => .error (.wrongKind "an array")

/-- The fields of a record by key and by position. -/
structure Fields where
  entries : Entries
  items : List Value

/-- A value as a record. A date or time is one without any field. -/
def asFields : Value → Except Fault Fields
  | .table _ entries => .ok ⟨entries, []⟩
  | .array items => .ok ⟨[], items⟩
  | .tables rows => .ok ⟨[], rows.map (.table .header)⟩
  | .datetime _ => .ok ⟨[], []⟩
  | _ => .error (.wrongKind "a table")

namespace Fields

def get? (f : Fields) (key : String) (position : Nat) : Option Value :=
  (f.entries.lookup key).or f.items[position]?

def optional {α : Type} (f : Fields) (key : String) (position : Nat)
    (read : Value → Except Fault α) : Except Fault (Option α) :=
  (f.get? key position).mapM read

/-- A field with a value for when it is missing. -/
def withDefault {α : Type} (f : Fields) (key : String) (position : Nat) (default : α)
    (read : Value → Except Fault α) : Except Fault α :=
  (Option.getD · default) <$> f.optional key position read

def required {α : Type} (f : Fields) (key : String) (position : Nat)
    (read : Value → Except Fault α) : Except Fault α :=
  match f.get? key position with
  | some v => read v
  | none => .error (.absent key)

end Fields
end Highlighter.Toml
