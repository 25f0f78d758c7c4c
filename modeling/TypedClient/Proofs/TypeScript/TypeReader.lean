import TypedClient.Proofs.TypeScript.Token
import TypedClient.TypeScript.Syntax

/-! Type expressions read from tokens: brackets bind tighter than `&`, and `&` tighter than `|`. -/

namespace TypedClient.TypeScript

/-- A type, or several of them combined in the given way. -/
def joined (combine : List TypeExpr → TypeExpr) : List TypeExpr → TypeExpr
  -- One type alone is not combined with anything.
  | [type] => type
  | types => combine types

/-- Several types are combined. -/
theorem joined_eq {combine : List TypeExpr → TypeExpr} {types : List TypeExpr}
    (several : 2 ≤ types.length) : joined combine types = combine types := by
  match types, several with
  | _ :: _ :: _, _ => rfl

/-- The type that a word stands for: a truth value, or what has that name. -/
def wordType (name : String) : TypeExpr :=
  if name == "true" then .literal (.bool true)
  else if name == "false" then .literal (.bool false)
  else .reference name []

/-- A type with all pairs of brackets that follow it, each of which makes a list of it. -/
def brackets (type : TypeExpr) : List Token → TypeExpr × List Token
  | .mark '[' :: .mark ']' :: rest => brackets (.array type) rest
  | rest => (type, rest)

/-- Without brackets behind it, a type is what it is. -/
theorem brackets_eq {type : TypeExpr} {rest : List Token} (stop : rest.head? ≠ some (.mark '[')) :
    brackets type rest = (type, rest) := by
  -- Only an opening bracket would be taken.
  unfold brackets
  split
  · exact absurd rfl stop
  · rfl

/-- Whether a member is read-only, and what follows the word for it; the word can be a key as well. -/
def modifier : List Token → Bool × List Token
  -- With a colon or a question mark behind it, the word is the key itself.
  | .word "readonly" :: .mark ':' :: rest => (false, .word "readonly" :: .mark ':' :: rest)
  | .word "readonly" :: .mark '?' :: rest => (false, .word "readonly" :: .mark '?' :: rest)
  | .word "readonly" :: rest => (true, rest)
  | rest => (false, rest)

/-- The key of a member: a word, a string literal or an index signature. -/
def key? : List Token → Option (String × List Token)
  | .word name :: rest => some (name, rest)
  | .text name :: rest => some (name, rest)
  -- An index signature is kept as the text that it is written as.
  | .mark '[' :: .word name :: .mark ':' :: .word type :: .mark ']' :: rest =>
    some ("[" ++ name ++ ": " ++ type ++ "]", rest)
  | _ => none

/-- A member without its type, and what follows the colon. -/
def memberHead? (ts : List Token) : Option (Member Unit × List Token) :=
  let (isReadOnly, ts) := modifier ts
  match key? ts with
  | some (name, .mark '?' :: .mark ':' :: rest) =>
    some ({ name := .text name, type := (), isRequired := false, isReadOnly }, rest)
  | some (name, .mark ':' :: rest) => some ({ name := .text name, type := (), isReadOnly }, rest)
  | _ => none

/-- A member with the type that stands behind its colon. -/
def withType (head : Member Unit) (type : TypeExpr) : Member TypeExpr :=
  { name := head.name, type, isRequired := head.isRequired, isReadOnly := head.isReadOnly }

-- Less is left after each part that is read; that it is so is checked where the recursion rests on it.
mutual

/-- The alternatives at the start of a text, with a bar between each two of them. -/
def alternatives? (ts : List Token) : Option (List TypeExpr × List Token) := do
  let (parts, rest) ← parts? ts
  let type := joined .intersection parts
  match rest with
  | .mark '|' :: more =>
    if more.length < ts.length then
      let (others, rest) ← alternatives? more
      return (type :: others, rest)
    else none
  | rest => return ([type], rest)
termination_by (ts.length, 2)

/-- The parts of an alternative, with an ampersand between each two of them. -/
def parts? (ts : List Token) : Option (List TypeExpr × List Token) := do
  let (type, rest) ← operand? ts
  match rest with
  | .mark '&' :: more =>
    if more.length < ts.length then
      let (others, rest) ← parts? more
      return (type :: others, rest)
    else none
  | rest => return ([type], rest)
termination_by (ts.length, 1)

/-- A type that is no union or intersection unless it stands in parentheses. -/
def operand? (ts : List Token) : Option (TypeExpr × List Token) :=
  match ts with
  | .word name :: .mark '<' :: rest => do
    let (args, rest) ← arguments? rest
    return brackets (.reference name args) rest
  | .word name :: rest => some (brackets (wordType name) rest)
  | .number n :: rest => some (brackets (.literal (.int n)) rest)
  | .text s :: rest => some (brackets (.literal (.text s)) rest)
  | .mark '(' :: rest => do
    match ← alternatives? rest with
    | (types, .mark ')' :: rest) => return brackets (joined .union types) rest
    | _ => none
  | .mark '\x7b' :: rest => do
    let (members, rest) ← members? rest
    return brackets (.object members) rest
  | _ => none
termination_by (ts.length, 0)

/-- The arguments of a type up to the bracket that closes them. -/
def arguments? (ts : List Token) : Option (List TypeExpr × List Token) := do
  match ← alternatives? ts with
  | (types, .mark '>' :: rest) => return ([joined .union types], rest)
  | (types, .mark ',' :: more) =>
    if more.length < ts.length then
      let (others, rest) ← arguments? more
      return (joined .union types :: others, rest)
    else none
  | _ => none
termination_by (ts.length, 3)

/-- The members of an object type up to the brace that closes it. -/
def members? (ts : List Token) : Option (List (Member TypeExpr) × List Token) :=
  match ts with
  | .mark '\x7d' :: rest => some ([], rest)
  | ts => do
    let (head, inner) ← memberHead? ts
    if inner.length < ts.length then
      match ← alternatives? inner with
      | (types, .mark ';' :: more) =>
        if more.length < ts.length then
          let (others, rest) ← members? more
          return (withType head (joined .union types) :: others, rest)
        else none
      | _ => none
    else none
termination_by (ts.length, 3)

end

/-- The type expression that a text denotes, if it is one. -/
def readType? (text : String) : Option TypeExpr := do
  match ← alternatives? (← tokens? text.toList) with
  | (types, []) => return joined .union types
  | _ => none

/-- The next token is none of the given marks. -/
def Avoids (marks : List Char) (ts : List Token) : Prop :=
  ∀ c ∈ marks, ts.head? ≠ some (.mark c)

/-- Avoiding many marks, tokens avoid a few of them. -/
theorem Avoids.mono {few many : List Char} {ts : List Token} (stop : Avoids many ts)
    (within : few ⊆ many) : Avoids few ts :=
  fun c mem => stop c (within mem)

/-- What is read when the given alternatives have been, and the given tokens are left. -/
def moreAlternatives (read : List TypeExpr) : List Token → Option (List TypeExpr × List Token)
  | .mark '|' :: more => (alternatives? more).map fun (others, rest) => (read ++ others, rest)
  | rest => some (read, rest)

/-- What is read when the given parts have been, and the given tokens are left. -/
def moreParts (read : List TypeExpr) : List Token → Option (List TypeExpr × List Token)
  | .mark '&' :: more => (parts? more).map fun (others, rest) => (read ++ others, rest)
  | rest => some (read, rest)

/-- Without a further ampersand, the parts are read. -/
theorem moreParts_eq {read : List TypeExpr} {rest : List Token} (stop : rest.head? ≠ some (.mark '&')) :
    moreParts read rest = some (read, rest) := by
  unfold moreParts
  split
  · exact absurd rfl stop
  · rfl

/-- Without a further bar, the alternatives are read. -/
theorem moreAlternatives_eq {read : List TypeExpr} {rest : List Token}
    (stop : rest.head? ≠ some (.mark '|')) : moreAlternatives read rest = some (read, rest) := by
  unfold moreAlternatives
  split
  · exact absurd rfl stop
  · rfl

/-- Earlier parts come before those that are read next. -/
theorem moreParts_append (first read : List TypeExpr) (rest : List Token) :
    (moreParts read rest).map (fun (others, rest) => (first ++ others, rest))
      = moreParts (first ++ read) rest := by
  -- Reading on does not depend on what has been read.
  unfold moreParts
  split <;> simp [Function.comp_def]

/-- Earlier alternatives come before those that are read next. -/
theorem moreAlternatives_append (first read : List TypeExpr) (rest : List Token) :
    (moreAlternatives read rest).map (fun (others, rest) => (first ++ others, rest))
      = moreAlternatives (first ++ read) rest := by
  unfold moreAlternatives
  split <;> simp [Function.comp_def]

/-- Where an operand ends, what follows it is read as further parts. -/
theorem parts?_of_operand? {ts rest : List Token} {type : TypeExpr}
    (found : operand? ts = some (type, rest)) (shorter : rest.length < ts.length) :
    parts? ts = moreParts [type] rest := by
  -- The next token decides whether there are further parts.
  rw [parts?, found]
  simp only [Option.bind_eq_bind, Option.bind_some]
  split
  · next more =>
    have fewer : more.length < ts.length := Nat.lt_of_succ_lt shorter
    cases others : parts? more <;> simp [moreParts, fewer, others]
  · next other =>
    have stop : rest.head? ≠ some (.mark '&') := by
      intro first
      obtain ⟨more, same⟩ := List.head?_eq_some_iff.mp first
      exact other more same
    rw [moreParts_eq stop]
    rfl

/-- Where the parts of an alternative end, what follows them is read as further alternatives. -/
theorem alternatives?_of_parts? {ts rest : List Token} {types : List TypeExpr}
    (found : parts? ts = some (types, rest)) (shorter : rest.length < ts.length) :
    alternatives? ts = moreAlternatives [joined .intersection types] rest := by
  -- Here too the next token decides.
  rw [alternatives?, found]
  simp only [Option.bind_eq_bind, Option.bind_some]
  split
  · next more =>
    have fewer : more.length < ts.length := Nat.lt_of_succ_lt shorter
    cases others : alternatives? more <;> simp [moreAlternatives, fewer, others]
  · next other =>
    have stop : rest.head? ≠ some (.mark '|') := by
      intro first
      obtain ⟨more, same⟩ := List.head?_eq_some_iff.mp first
      exact other more same
    rw [moreAlternatives_eq stop]
    rfl

/-- A word without arguments is an operand. -/
theorem operand?_word {rest : List Token} (name : String) (stop : Avoids ['<'] rest) :
    operand? (.word name :: rest) = some (brackets (wordType name) rest) := by
  -- With an angle bracket behind it, the word would have arguments.
  rw [operand?]
  rintro after rfl
  exact stop '<' (by simp) rfl

/-- Arguments end at the closing bracket. -/
theorem arguments?_last {ts rest : List Token} {types : List TypeExpr}
    (found : alternatives? ts = some (types, .mark '>' :: rest)) :
    arguments? ts = some ([joined .union types], rest) := by
  rw [arguments?, found]
  rfl

/-- A comma stands between an argument and those that come after it. -/
theorem arguments?_comma {ts more rest : List Token} {types others : List TypeExpr}
    (found : alternatives? ts = some (types, .mark ',' :: more)) (shorter : more.length < ts.length)
    (goesOn : arguments? more = some (others, rest)) :
    arguments? ts = some (joined .union types :: others, rest) := by
  rw [arguments?, found]
  simp [shorter, goesOn]

/-- A member is read with its type, and then those that come after it. -/
theorem members?_of_memberHead? {ts inner more rest : List Token} {head : Member Unit}
    {types : List TypeExpr} {others : List (Member TypeExpr)}
    (headRead : memberHead? ts = some (head, inner))
    (found : alternatives? inner = some (types, .mark ';' :: more)) (shorter : inner.length < ts.length)
    (fewer : more.length < ts.length) (goesOn : members? more = some (others, rest)) :
    members? ts = some (withType head (joined .union types) :: others, rest) := by
  -- A closing brace is no member, so the members do not end here.
  have opens : ∀ after, ts ≠ .mark '\x7d' :: after := by
    rintro after rfl
    simp [memberHead?, modifier, key?] at headRead
  rw [members?]
  · simp [headRead, found, shorter, fewer, goesOn]
  · exact opens

end TypedClient.TypeScript
