import TypedClient.Operation.Name
import TypedClient.Proofs.Name.Identifier

/-! When the names of operations are identifiers: those from an identifier of the document, and those from a route. -/

namespace TypedClient

namespace Name

/-- The text that the name of a route is made of: the method and the path without its version segments, with its
placeholders read as words and hyphens for its slashes. -/
def routeText (method url : List Char) : List Char :=
  method ++ '-' :: (spellPlaceholders (withoutVersion url)).map fun c => if c == '/' then '-' else c

/-- A text gives an identifier in camel case: nothing in it but separators is illegal in one, and what stands first
without them may begin one. -/
structure IsSpelling (cs : List Char) : Prop where
  parts : ∀ c ∈ cs, isSeparator c = true ∨ Text.isIdentifierPart c = true
  start : ∃ c, cs.find? (fun c => !isSeparator c) = some c ∧ Text.isIdentifierStart c = true

/-- A text is an identifier in camel case exactly if it is a spelling of one. -/
theorem isIdentifierName_camel_iff (cs : List Char) :
    TypeScript.isIdentifierName (String.ofList (camel false cs)) = true ↔ IsSpelling cs := by
  rw [isIdentifierName_camel, isIdentifierName_iff, forall_mem_unseparated, unseparated, List.head?_filter,
    Option.map_eq_some_iff, and_comm]
  constructor
  · rintro ⟨legal, begins⟩
    exact ⟨legal, begins⟩
  · rintro ⟨legal, begins⟩
    exact ⟨legal, begins⟩

end Name

namespace Operation

open TypeScript (isIdentifierName)

/-- The identifier that an operation is named after: one that is not empty, if they are to be used. -/
def usedId (config : Config) (id : Option String) : Option String :=
  if config.operationId.truthy then id.filter (· ≠ "") else none

variable (url method : String) (config : Config) (id : Option String)

/-- Whether an identifier is used is what an operation asks before it takes its name from one. -/
theorem isSome_usedId : (usedId config id).isSome =
    (config.operationId.truthy && (id.elim .null .text : Value).truthy) := by
  rw [usedId]
  generalize config.operationId.truthy = wanted
  cases id with
  | none => cases wanted <;> rfl
  | some text => by_cases empty : text = "" <;> cases wanted <;> simp [Value.truthy, Scalar.truthy, empty]

/-- Only the identifier that is given is used. -/
theorem eq_some_of_usedId {text : String} (used : usedId config id = some text) : id = some text := by
  rw [usedId] at used
  split at used
  · exact (Option.filter_eq_some_iff.mp used).1
  · cases used

/-- An operation has a name, from the identifier that is used or else from its route. -/
theorem operationName_eq : operationName (.text url) method config (id.elim .null .text) =
    .ok (camelCase (match usedId config id with
      | some text => sanitizeNamespace text
      | none => String.ofList (Name.routeText method.toList url.toList))) := by
  rw [operationName, ← isSome_usedId]
  -- Either way what is put in camel case is the text that the name is said to be made of.
  cases used : usedId config id with
  | none =>
    have route : camelCase (String.ofList (Name.routeText method.toList url.toList)) =
        String.ofList (Name.ofRoute method.toList url.toList) := by
      rw [camelCase, String.toList_ofList, Name.routeText, Name.ofRoute]
    rw [route]
    rfl
  | some text =>
    have name : camelCase (sanitizeNamespace text) =
        String.ofList (Name.camel false (Name.hyphenated text.toList)) := by
      rw [camelCase, sanitizeNamespace, String.toList_ofList]
    rw [eq_some_of_usedId config id used]
    dsimp only
    rw [name]
    rfl

/-- The name of an operation is an identifier exactly if the identifier that it is named after has a letter, or, if it
is named after its route, if that spells one. -/
theorem isIdentifierName_operationName_iff :
    ∃ name, operationName (.text url) method config (id.elim .null .text) = .ok name ∧
      (isIdentifierName name = true ↔
        match usedId config id with
        | some text => Name.HasLetter text.toList
        | none => Name.IsSpelling (Name.routeText method.toList url.toList)) := by
  refine ⟨_, operationName_eq url method config id, ?_⟩
  cases usedId config id with
  | none => simp [camelCase, Name.isIdentifierName_camel_iff]
  | some text => simp [camelCase, sanitizeNamespace, Name.isIdentifierName_camel_hyphenated]

/-- A sign of a path that is no part of any name stays in the name of an operation. -/
theorem not_isIdentifierName_at :
    ∃ name, operationName (.text "/users/@me") "get" {} .null = .ok name ∧ name = "getUsers@me" ∧
      ¬ isIdentifierName name = true :=
  ⟨_, rfl, by decide +kernel, by decide +kernel⟩

end Operation

end TypedClient
