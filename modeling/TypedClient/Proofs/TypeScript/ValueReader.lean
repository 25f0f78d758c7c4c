import TypedClient.Proofs.TypeScript.Token
import TypedClient.Value.Equality

/-!
Values read from tokens, as object and list literals write them; a comma may stand behind the last part.

They are the values of an evaluated literal: every number is a double, and an object has its members in the order in
which it lists them itself.
-/

namespace TypedClient.TypeScript

/-- The value that a word stands for, if it is no name of something else. -/
def wordValue? (name : String) : Option Value :=
  if name == "null" then some .null
  else if name == "true" then some (.bool true)
  else if name == "false" then some (.bool false)
  else none

/-- The key at the start of an entry, bare or in quotes, and what follows the colon behind it. -/
def entryKey? : List Token → Option (String × List Token)
  | .word name :: .mark ':' :: rest => some (name, rest)
  | .text name :: .mark ':' :: rest => some (name, rest)
  | _ => none

/-- The position that a key names as one of a list does: an integer as it is written, short of the longest list. -/
def arrayIndex? (key : Scalar) : Option Nat :=
  match key with
  | .text name =>
    match natural? name.toList with
    | some (n, []) => if n < 4294967295 then some n else none
    | _ => none
  | _ => none

/-- The members of an object as it lists them: positions in ascending order, then all others as they were added. -/
def inPropertyOrder (members : Members) : Members :=
  let positioned := members.filterMap fun m => (arrayIndex? m.1).map fun position => (position, m)
  (positioned.mergeSort fun a b => a.1 ≤ b.1).map Prod.snd ++ members.filter fun m => (arrayIndex? m.1).isNone

/-- The key under which a literal gives the prototype of its object. -/
def prototypeKey : Scalar :=
  .text "__proto__"

/-- Whether a value can be a prototype, as objects and null can. -/
def isPrototype : Value → Bool
  | .null | .list _ | .map _ => true
  | _ => false

/-- The object that entries make: of several entries under one key, the last one counts. -/
def objectOf? (entries : Members) : Option Value :=
  let prototypes := entries.filter (·.1 == prototypeKey)
  -- The prototype is given once at most, and an object with one of its own is no plain value.
  if 1 < prototypes.length || prototypes.any (isPrototype ·.2) then none
  -- Whatever else is given for it is ignored, and never a member.
  else some (.map (inPropertyOrder (.ofEntries (entries.filter (·.1 != prototypeKey)))))

-- As with types, that less is left after each part is checked where the recursion rests on it.
mutual

/-- The value at the start of a text, and what follows it. -/
def value? (ts : List Token) : Option (Value × List Token) :=
  match ts with
  | .text s :: rest => some (.text s, rest)
  | .number n :: rest => some (.float (.ofInt n), rest)
  | .word name :: rest => (wordValue? name).map fun v => (v, rest)
  | .mark '[' :: rest => (items? rest).map fun (items, rest) => (.list items, rest)
  | .mark '\x7b' :: rest => do
    let (entries, rest) ← entries? rest
    return (← objectOf? entries, rest)
  | _ => none
termination_by (ts.length, 0)

/-- The items of a list up to the bracket that closes it. -/
def items? (ts : List Token) : Option (List Value × List Token) :=
  match ts with
  | .mark ']' :: rest => some ([], rest)
  | ts => do
    match ← value? ts with
    | (v, .mark ']' :: rest) => return ([v], rest)
    | (v, .mark ',' :: more) =>
      if more.length < ts.length then
        let (others, rest) ← items? more
        return (v :: others, rest)
      else none
    | _ => none
termination_by (ts.length, 1)

/-- The entries of an object up to the brace that closes it, in the order in which they are written. -/
def entries? (ts : List Token) : Option (Members × List Token) :=
  match ts with
  | .mark '\x7d' :: rest => some ([], rest)
  | ts => do
    let (key, inner) ← entryKey? ts
    if inner.length < ts.length then
      match ← value? inner with
      | (v, .mark '\x7d' :: rest) => return ([(.text key, v)], rest)
      | (v, .mark ',' :: more) =>
        if more.length < ts.length then
          let (others, rest) ← entries? more
          return ((.text key, v) :: others, rest)
        else none
      | _ => none
    else none
termination_by (ts.length, 1)

end

/-- The value that a text denotes, if it is that of a literal. -/
def readValue? (text : String) : Option Value := do
  match ← value? (← tokens? text.toList) with
  | (v, []) => return v
  | _ => none

/-- The closing bracket ends a list. -/
theorem items?_close (rest : List Token) : items? (.mark ']' :: rest) = some ([], rest) := by
  rw [items?]

/-- The closing brace ends an object. -/
theorem entries?_close (rest : List Token) : entries? (.mark '\x7d' :: rest) = some ([], rest) := by
  rw [entries?]

/-- An item is read up to the comma behind it, and then those that come after it. -/
theorem items?_comma {ts more rest : List Token} {v : Value} {others : List Value}
    (found : value? ts = some (v, .mark ',' :: more)) (shorter : more.length < ts.length)
    (goesOn : items? more = some (others, rest)) : items? ts = some (v :: others, rest) := by
  -- A closing bracket is no value, so the list does not end here.
  have opens : ∀ after, ts ≠ .mark ']' :: after := by
    rintro after rfl
    simp [value?] at found
  rw [items?]
  · simp [found, shorter, goesOn]
  · exact opens

/-- An entry is read up to the comma behind it, and then those that come after it. -/
theorem entries?_comma {ts inner more rest : List Token} {key : String} {v : Value} {others : Members}
    (named : entryKey? ts = some (key, inner)) (found : value? inner = some (v, .mark ',' :: more))
    (within : inner.length < ts.length) (shorter : more.length < ts.length)
    (goesOn : entries? more = some (others, rest)) :
    entries? ts = some ((.text key, v) :: others, rest) := by
  -- A closing brace is no key, so the object does not end here.
  have opens : ∀ after, ts ≠ .mark '\x7d' :: after := by
    rintro after rfl
    simp [entryKey?] at named
  rw [entries?]
  · simp [named, found, within, shorter, goesOn]
  · exact opens

end TypedClient.TypeScript
