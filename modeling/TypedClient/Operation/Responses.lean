import TypedClient.Operation.Parameters

/-! Resolving the responses of an operation. -/

namespace TypedClient.Response

/-- The digits of the status that a key begins with, after blanks and a sign. -/
def leadingDigits (cs : List Char) : List Char :=
  let unsigned := match cs.dropWhile Text.isBlank with
    | '+' :: rest => rest
    | '-' :: rest => rest
    | rest => rest
  unsigned.takeWhile Text.isDecimal

/-- What the response under a key is for, unless the key is unusable; the sign of a status makes no
difference. -/
def codeOf? (key : Value) : Outcome (Option ResponseCode) :=
  if key == .text "default" then .ok (some .fallback)
  else
    match leadingDigits key.display.toList with
    | [] => .ok none
    | digits => (Text.decimalNumber? digits).elim (misfit .notANumber) fun n => .ok (some (.status n))

/-- The schema of the content of a response, if it has one. -/
def contentSchema (members : Members) : Outcome (Option Value) := do
  match members.get? "content" with
  -- The content is given by media types in a later version of the format, and by a schema in the earlier one.
  | some content => return (← Content.chosen? (content.orElse (.map []))).map Prod.snd
  | none =>
    let schema := members.get "schema"
    return if schema.truthy then some schema else none

/-- The response with the given members. -/
def ofMembers (document : Value) (members : Members) (code : ResponseCode) : Outcome Response := do
  -- Nothing comes with that status, whatever is declared for it.
  let isVoid := match code with
    | .status code => code == 204
    | _ => false
  let bare : Response := {
    code
    description := (members.get "description").orNull
    schema := { variant := .generic, type := .plain (if isVoid then "void" else "unknown") } }
  match ← contentSchema members with
  | some schema =>
    let target ← Content.followInto ["#/components/responses/", "#/responses/"] document schema
    return { bare with schema := ← Schema.resolve (.text "") target }
  | none =>
    let headers ← ((members.get "headers").orElse (.map [])).elements
    match headers with
    | [] => return bare
    -- Headers can only be read as texts.
    | name :: _ =>
      return { bare with
        schema := { variant := .generic, type := .plain "string" }, isHeader := true, name }

/-- The response under a key, unless the key is unusable. -/
def ofEntry (document : Value) (key : Scalar) (entry : Value) : Outcome (Option Response) := do
  match ← codeOf? (.scalar key) with
  | none => return none
  | some code =>
    let members ← (← Document.dereference document entry).members
    return some (← ofMembers document members code)

/-- Whether one response comes no later than another: statuses ascend, and the fallback is last. -/
def comesBefore (a b : Response) : Bool :=
  match a.code, b.code with
  | .status m, .status n => m ≤ n
  | .fallback, .status _ => false
  -- A status comes before the fallback, and what cannot be compared stays where it is.
  | _, _ => true

/-- The responses of an operation in ascending order of their statuses. -/
def ofMap (document responses : Value) : Outcome (List Response) := do
  let entries ← responses.members
  let resolved ← entries.mapM fun entry => ofEntry document entry.1 entry.2
  -- The sort is stable, so responses for the same status keep their order.
  return (resolved.filterMap id).mergeSort comesBefore

end TypedClient.Response
