import TypedClient.Text.Digit
import TypedClient.Text.Percent
import TypedClient.Value.Access

/-! Following references: pointers from the root of a document to one of its parts. -/

namespace TypedClient.Document

/-- The key that a segment of a pointer stands for. -/
def unescapeSegment (segment : List Char) : List Char :=
  let slashes := Text.replaceAll ['~', '1'] ['/'] segment
  Text.percentDecode (Text.replaceAll ['~', '0'] ['~'] slashes)

/-- The keys of a pointer; empty segments lead nowhere else and are left out. -/
def pointerKeys (ref : String) : List (List Char) :=
  let path := ref.toList.dropWhile fun c => c == '#' || c == '/'
  ((Text.splitOn '/' path).filter fun segment => !segment.isEmpty).map unescapeSegment

/-- The position that a key of digits stands for. -/
def position? (key : List Char) : Option (Outcome Nat) :=
  if !key.isEmpty && key.all Text.isDigit then
    -- Digits without positional value, such as superscripts, make up no number.
    let number? := if key.all Text.isDecimal then Text.decimalNumber? key else none
    some (number?.elim (misfit .notANumber) .ok)
  else none

/-- The part of a map or list that one key leads to. -/
def step (ref : String) (node : Value) (key : List Char) : Outcome Value :=
  match node with
  | .map members =>
    match Members.get? members (String.ofList key) with
    | some value => .ok value
    | none => .error (.unresolvableReference ref)
  | .list items =>
    match position? key with
    | some position => do
      match items[← position]? with
      | some item => return item
      | none => .error (.unresolvableReference ref)
    | none => .error (.unresolvableReference ref)
  | _ => .error (.unresolvableReference ref)

/-- The part of the document that a reference points at. -/
def resolveRef (document : Value) (ref : String) : Outcome Value :=
  if ref.toList.head? == some '#' then (pointerKeys ref).foldlM (step ref) document
  else .error (.unsupportedReference ref)

/-- What an object refers to if it is a reference, else the object itself. -/
def dereference (document item : Value) : Outcome Value :=
  match item with
  | .map members =>
    match Members.get? members "$ref" with
    | some ref => do resolveRef document (← ref.asText)
    | none => .ok item
  | _ => .ok item

end TypedClient.Document
