import TypedClient.Error
import TypedClient.Text.Half
import TypedClient.Text.Search
import TypedClient.Value.Equality

/-! Taking values apart; a value of the wrong shape is a fault of its own kind. -/

namespace TypedClient.Value

/-- The members of a map; no other value has any. -/
def members : Value → Outcome Members
  | map members => .ok members
  | _ => misfit .notSupported

/-- The value under a text key of a map, null standing for an absent one. -/
def get (v : Value) (key : String) : Outcome Value :=
  return (← v.members).get key

/-- Whether a map has the key, a collection holds the text, or a text has it as a part. -/
def mentions (v : Value) (key : String) : Outcome Bool :=
  match v with
  | map members => .ok (Members.has members key)
  | list items => .ok ((text key).isIn items)
  | set items => .ok (items.any (Scalar.text key).same)
  | pair first second => .ok ((text key).isIn [first, second])
  | text s => .ok (Text.occurs key.toList s.toList)
  | _ => misfit .wrongKind

/-- The value under a text key of a map that must have it. -/
def require (v : Value) (key : String) : Outcome Value :=
  match v with
  | map members =>
    match Members.get? members key with
    | some value => .ok value
    | none => misfit .missingKey
  | _ => misfit .wrongKind

/-- What a value goes through one by one: items, the keys of a map, characters or bytes. -/
def elements : Value → Outcome (List Value)
  | list items => .ok items
  | map members => .ok (members.map fun member => scalar member.1)
  | set items => .ok (items.map scalar)
  | pair key value => .ok [key, value]
  | text s => .ok ((Text.codes s.toList).map fun code => text (String.ofList (Text.ofCode code)))
  | scalar (.bytes content) => .ok (content.map fun byte => int byte.toNat)
  | _ => misfit .wrongKind

/-- The text that a value is; bytes are much like a text, but take no text beside them. -/
def asText : Value → Outcome String
  | text s => .ok s
  | scalar (.bytes _) => misfit .wrongKind
  | _ => misfit .notSupported

/-- The text in which parts are to be replaced; a moment has a replacement of another kind. -/
def asEditable : Value → Outcome String
  | scalar (.moment _) => misfit .wrongKind
  | v => v.asText

/-- How many parts a value has. -/
def count : Value → Outcome Nat
  | list items => .ok items.length
  | map members => .ok members.length
  | set items => .ok items.length
  | pair _ _ => .ok 2
  | text s => .ok (Text.codes s.toList).length
  | scalar (.bytes content) => .ok content.length
  | _ => misfit .wrongKind

/-- The item at a position, counted from the end if it is negative. -/
def itemAt {α : Type} (items : List α) (position : Int) : Outcome α :=
  let index := if position < 0 then position + items.length else position
  match if index < 0 then none else items[index.toNat]? with
  | some item => .ok item
  | none => misfit .outOfRange

/-- The part of a value under a key or at a position. -/
def part (v key : Value) : Outcome Value :=
  -- Truth values count as the positions zero and one.
  let position? := match key with
    | int n => some n
    | bool b => some (if b then 1 else 0)
    | _ => none
  match v, key with
  | map members, scalar key =>
    match Members.find? members key with
    | some value => .ok value
    | none => misfit .missingKey
  | map _, _ | set _, _ => misfit .wrongKind
  | _, _ =>
    match position? with
    | some position => do itemAt (← v.elements) position
    | none => misfit .wrongKind

/-- Whether a value can be a key: it is a scalar or made up of scalars that cannot change. -/
def isKey : Value → Bool
  | scalar _ => true
  | pair key value => key.isKey && value.isKey
  | _ => false

/-- The values of a collection, each once; lists, maps and sets cannot be told apart quickly and are
refused. -/
def asKeys (v : Value) : Outcome (List Value) := do
  let items ← v.elements
  if items.all isKey then return distinct items else misfit .wrongKind

end TypedClient.Value
