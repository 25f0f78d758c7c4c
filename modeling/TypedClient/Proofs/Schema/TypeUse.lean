import Mathlib.Data.List.TakeDrop
import TypedClient.Proofs.Outcome
import TypedClient.Proofs.Text.Blank
import TypedClient.Proofs.Text.Search
import TypedClient.Schema.TypeUse

/-! The types that names stand for: blanks around a name do not matter, and no type is without a head. -/

namespace TypedClient

/-- Blanks in front of a name make no difference to its identifier. -/
theorem Name.identifier_append_of_blank {lead : List Char}
    (blank : ∀ c ∈ lead, Text.isBlank c = true) (cs : List Char) :
    identifier (lead ++ cs) = identifier cs := by
  rw [identifier, Text.trim_append_of_blank blank, ← identifier]

/-- No place is taken off a text that begins with none of them. -/
theorem afterPlace?_eq_none_iff {places : List String} {cs : List Char} :
    afterPlace? places cs = none ↔ ∀ place ∈ places, ¬ place.toList <+: cs := by
  rw [afterPlace?, List.findSome?_eq_none_iff]
  exact forall₂_congr fun place _ => Text.afterHead?_eq_none_iff

section Generic

variable {lead cs : List Char}

/-- The line of a text that is looked at: all of it but a line feed at its very end. -/
theorem seenLine_append (nonempty : cs ≠ []) :
    (if (lead ++ cs).getLast? == some '\n' then (lead ++ cs).dropLast else lead ++ cs)
      = lead ++ if cs.getLast? == some '\n' then cs.dropLast else cs := by
  -- The end of the text is that of its second part, which is not empty.
  rw [List.getLast?_append_of_ne_nil _ nonempty, List.dropLast_append_of_ne_nil nonempty]
  split <;> rfl

/-- Blanks in front of a generic name are part of its head, if they are on the same line. -/
theorem genericParts?_append (blank : ∀ c ∈ lead, Text.isBlank c = true) (line : '\n' ∉ lead)
    (nonempty : cs ≠ []) :
    genericParts? (lead ++ cs)
      = (genericParts? cs).map fun parts => (lead ++ parts.1, parts.2) := by
  simp only [genericParts?, seenLine_append nonempty, List.contains_append]
  generalize (if cs.getLast? == some '\n' then cs.dropLast else cs) = seen
  have unbroken : lead.contains '\n' = false := by simpa using line
  -- No blank is a bracket, so the first bracket is where it was.
  have unbracketed : ∀ c ∈ lead, (c != '[') = true := by
    intro c mem
    have := blank c mem
    rw [bne_iff_ne]
    rintro rfl
    revert this
    decide
  rw [unbroken, Bool.false_or, List.span_eq_takeWhile_dropWhile, List.span_eq_takeWhile_dropWhile,
    List.takeWhile_append_of_pos unbracketed, List.dropWhile_append_of_pos unbracketed]
  split
  · rfl
  · cases seen.dropWhile (· != '[') with
    | nil => rfl
    | cons bracket rest =>
      dsimp only
      split <;> rfl

/-- A name that does not begin on its last line is not generic. -/
theorem genericParts?_of_line (line : '\n' ∈ lead) (nonempty : cs ≠ []) :
    genericParts? (lead ++ cs) = none := by
  have broken : lead.contains '\n' = true := by simpa using line
  simp only [genericParts?, seenLine_append nonempty, List.contains_append, broken, Bool.true_or, if_true]

end Generic

/-- A name that is made an identifier is not empty. -/
theorem sanitizeIdentifier_ne_empty (raw : String) : sanitizeIdentifier raw ≠ "" := by
  rw [sanitizeIdentifier, ne_eq, String.ofList_eq_empty_iff, Name.identifier]
  -- A placeholder stands for nothing at all.
  split
  · decide
  · next solid => simpa using solid

/-- Reserved words are set apart by more text, so no name becomes empty. -/
theorem escapeReserved_ne_empty {name : String} (nonempty : name ≠ "") : escapeReserved name ≠ "" := by
  rw [escapeReserved]
  split
  · simp
  · exact nonempty

/-- A primitive token is listed with its type. -/
theorem mem_primitiveTypes {token primitive : String}
    (found : primitiveTypes.lookup token = some primitive) : (token, primitive) ∈ primitiveTypes := by
  obtain ⟨before, after, split, -⟩ := List.lookup_eq_some_iff.mp found
  rw [split]
  simp

/-- No primitive type is written as nothing. -/
theorem primitiveTypes_ne_empty {token primitive : String}
    (found : primitiveTypes.lookup token = some primitive) : primitive ≠ "" := by
  have each : ∀ entry ∈ primitiveTypes, entry.2 ≠ "" := by decide
  exact each (token, primitive) (mem_primitiveTypes found)

namespace TypeUse

/-- The type of a name is written as that name. -/
@[simp] theorem text_named (name : String) : (named name).text = name :=
  rfl

/-- The type of a name is its own head. -/
@[simp] theorem base_named (name : String) : (named name).base = name :=
  rfl

/-- The head of a generic type is that of the name, unless the name is the one for arrays. -/
theorem base_generic (head argument : TypeUse) :
    (generic head argument).base = if head.text == "unknown[]" then argument.text else head.text := by
  rw [generic]
  split <;> rfl

/-- Recording a reference leaves the head of a type as it is. -/
@[simp] theorem base_referring (token : String) (type : TypeUse) :
    (type.referring token).base = type.base := by
  rw [referring]
  split <;> rfl

/-- Blanks in front of a part of a generic name make no difference to its type. -/
theorem ofPart_append_of_blank {lead : List Char} (blank : ∀ c ∈ lead, Text.isBlank c = true)
    (cs : List Char) : ofPart (lead ++ cs) = ofPart cs := by
  simp only [ofPart, sanitizeIdentifier, String.toList_ofList, Name.identifier_append_of_blank blank]

/-- Blanks in front of a name make no difference to the head of its type, unless they keep it from
being read as generic. -/
theorem base_ofName_append {lead cs : List Char} {token other : String}
    (blank : ∀ c ∈ lead, Text.isBlank c = true) (whole : cs = [] → lead = [])
    (seen : '\n' ∈ lead → genericParts? cs = none) :
    (ofName token (lead ++ cs)).base = (ofName other cs).base := by
  -- A line feed in front hides generic parts, so there must be none to hide.
  have parts : genericParts? (lead ++ cs)
      = (genericParts? cs).map fun parts => (lead ++ parts.1, parts.2) := by
    by_cases empty : cs = []
    · rw [whole empty, empty]
      rfl
    · by_cases line : '\n' ∈ lead
      · rw [genericParts?_of_line line empty, seen line]
        rfl
      · exact genericParts?_append blank line empty
  rw [ofName, ofName, parts]
  cases genericParts? cs with
  | some parts => simp [ofPart_append_of_blank blank, generic]
  | none =>
    by_cases empty : cs = []
    · simp [whole empty, empty]
    · simp [empty, sanitizeIdentifier, Name.identifier_append_of_blank blank]

/-- Each part of a generic name is the name of a type. -/
theorem text_ofPart_ne_empty (cs : List Char) : (ofPart cs).text ≠ "" := by
  rw [ofPart]
  split
  · next found => exact primitiveTypes_ne_empty found
  · rw [text_named]
    exact escapeReserved_ne_empty (sanitizeIdentifier_ne_empty _)

/-- The type that a name stands for has a head. -/
theorem base_ofName_ne_empty (token : String) (name : List Char) : (ofName token name).base ≠ "" := by
  rw [ofName]
  split
  · rw [base_referring, base_generic]
    split <;> exact text_ofPart_ne_empty _
  · split
    · decide
    · rw [base_referring, base_named]
      exact escapeReserved_ne_empty (sanitizeIdentifier_ne_empty _)

/-- A text that stands for a type stands for one with a head. -/
theorem base_ne_empty_of_ofText {token : String} {type : TypeUse}
    (made : ofText token .null = .ok type) : type.base ≠ "" := by
  -- The head is that of a primitive type, or made of a name.
  rw [ofText] at made
  split at made
  · next primitive found =>
    cases made
    exact primitiveTypes_ne_empty found
  · obtain ⟨name, -, made⟩ := Outcome.bind_eq_ok.mp made
    rw [← Outcome.pure_eq_ok.mp made]
    exact base_ofName_ne_empty _ _

end TypeUse

/-- A scalar stands for a single type, beside which null is not allowed. -/
theorem resolveType_scalar_eq_ok {key : Scalar} {format : Value} {type : ResolvedType} :
    resolveType (.scalar key) format = .ok type ↔
      ∃ own, TypeUse.ofToken (.scalar key) format = .ok own ∧ { toTypeUse := own } = type :=
  Outcome.map_eq_ok

/-- A key stands for a type with a head. -/
theorem base_ne_empty_of_resolveType {key : Scalar} {type : ResolvedType}
    (typed : resolveType (.scalar key) = .ok type) : type.base ≠ "" := by
  obtain ⟨own, made, rfl⟩ := resolveType_scalar_eq_ok.mp typed
  rw [TypeUse.ofToken] at made
  -- A key that counts as absent leaves the type unknown, and any other one has to be a text.
  split at made
  · cases made
    decide
  · obtain ⟨token, -, made⟩ := Outcome.bind_eq_ok.mp made
    exact TypeUse.base_ne_empty_of_ofText made

end TypedClient
