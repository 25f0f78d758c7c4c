import TypedClient.Schema.Model

/-! The values of an enum schema, with the names and descriptions given beside them. -/

namespace TypedClient.Schema

/-- Whether a value can be one of an enum: a text, a number or a truth value. -/
def isEnumerable : Value → Bool
  | .text _ | .int _ | .float _ | .bool _ => true
  | _ => false

/-- The label at a position of a list of labels, null if the list is too short. -/
def labelAt (labels : Value) (position : Nat) : Outcome Value := do
  if position < (← labels.count) then labels.part (.int position) else return .null

/-- An enum value with its labels, which stand at its position among the distinct values. -/
def enumValueAt (names descriptions : Value) (entry : Value × Nat) : Outcome EnumValue :=
  return {
    value := entry.1
    customName := ← labelAt names entry.2
    customDescription := ← labelAt descriptions entry.2 }

/-- The enum values that the members of a schema list, each once. -/
def enumValues (members : Members) : Outcome (List EnumValue) :=
  match members.get "enum" with
  | .list values =>
    let names := ((members.get "x-enum-varnames").orElse (members.get "x-enumNames")).orElse (.list [])
    let descriptions := (members.get "x-enum-descriptions").orElse (.list [])
    -- Positions count all distinct values, those that cannot be enumerated included.
    ((Value.distinct values).zipIdx.filter fun entry => isEnumerable entry.1).mapM
      (enumValueAt names descriptions)
  | _ => .ok []

end TypedClient.Schema
