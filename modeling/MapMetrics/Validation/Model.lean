import MapMetrics.Validation.Field

/-!
# Models

A model is a type of records with two directions: reading a record from a value, and writing it
down again with every field.
-/

namespace MapMetrics

/-- A type of records that are read from values and written down as values. -/
class Model (α : Type) where
  /-- The name that problems use. -/
  title : String
  /-- The record that a value holds. -/
  ofValue : Value → Outcome α
  /-- The value that holds a record, with every field. -/
  toValue : α → Value

namespace Model

/-- A mapping from names to values. -/
def fields (entries : List (String × Value)) : Value :=
  .mapping (entries.map fun e => (.text e.1, e.2))

/-- A text that may be absent. -/
def perhapsText : Option String → Value
  | none => .null
  | some s => .text s

/-- The problem of changing a field of a record: records never change. -/
def changeField (field : String) (value : Value) : Problem :=
  ⟨[.field field], .frozen, value⟩

end Model

end MapMetrics
