import TypedClient.Proofs.Name.Identifier
import TypedClient.Proofs.Schema.TypeUse
import TypedClient.Proofs.Value.Equality

/-! The types that texts stand for: what they are made of, and what a list of tokens adds to its members. -/

namespace TypedClient

/-- A type without parts: a primitive one, or a legal name. -/
def IsAtom (text : String) : Prop :=
  text ∈ primitiveTypes.map Prod.snd ∨ Name.IsLegalName text

namespace TypeUse

variable {type head argument : TypeUse} {token name : String} {cs : List Char} {atoms : List String}

/-- A type is made of atoms: of one, alone or as the element of an array, or of two, a head and its argument. -/
inductive MadeOf (type : TypeUse) : List String → Prop
  | atom {a : String} (atom : IsAtom a) (text : type.text = a) (base : type.base = a)
      (template : type.template = none) : MadeOf type [a]
  | array {a : String} (atom : IsAtom a) (text : type.text = a ++ "[]") (base : type.base = a)
      (template : type.template = none) : MadeOf type [a]
  | generic {a b : String} (head : IsAtom a) (argument : IsAtom b) (text : type.text = a ++ "<" ++ b ++ ">")
      (base : type.base = a) (template : type.template = some b) : MadeOf type [a, b]

/-- A type is made of atoms and imports the names among them: all that are no primitive types, in their order, and
nothing that is no legal name. -/
structure WellFormed (type : TypeUse) (atoms : List String) : Prop where
  madeOf : type.MadeOf atoms
  legal : ∀ name ∈ type.imports, Name.IsLegalName name
  known : type.imports.Sublist atoms
  complete : (atoms.filter fun a => a ∉ primitiveTypes.map Prod.snd).Sublist type.imports

/-- A primitive type is made of itself. -/
theorem wellFormed_plain (primitive : name ∈ primitiveTypes.map Prod.snd) : (plain name).WellFormed [name] where
  madeOf := .atom (.inl primitive) rfl rfl rfl
  legal := by simp [plain]
  known := by simp [plain]
  complete := by simp [primitive]

/-- The type of a legal name is made of the name. -/
theorem wellFormed_named (legal : Name.IsLegalName name) : (named name).WellFormed [name] where
  madeOf := .atom (.inr legal) rfl rfl rfl
  legal := by simpa [named] using legal
  known := .refl _
  complete := List.filter_sublist

/-- Recording a reference leaves what a type is made of as it is. -/
theorem WellFormed.referring (wellFormed : type.WellFormed atoms) (token : String) :
    (type.referring token).WellFormed atoms := by
  rw [TypeUse.referring]
  split
  · obtain ⟨madeOf, legal, known, complete⟩ := wellFormed
    refine ⟨?_, legal, known, complete⟩
    cases madeOf with
    | atom atom text base template => exact .atom atom text base template
    | array atom text base template => exact .array atom text base template
    | generic head argument text base template => exact .generic head argument text base template
  · exact wellFormed

/-- A part of a generic name is an atom, and has the type of a primitive token or of a legal name. -/
theorem wellFormed_ofPart (cs : List Char) :
    IsAtom (ofPart cs).text ∧ (ofPart cs).WellFormed [(ofPart cs).text] := by
  have legal := Name.isLegalName_escapeReserved_sanitizeIdentifier (String.ofList cs)
  rw [ofPart]
  generalize sanitizeIdentifier (String.ofList cs) = name at legal ⊢
  split
  · next primitive found =>
    have listed : primitive ∈ primitiveTypes.map Prod.snd := List.mem_map_of_mem (mem_primitiveTypes found)
    exact ⟨.inl listed, wellFormed_plain listed⟩
  · exact ⟨.inr legal, wellFormed_named legal⟩

/-- A generic type is made of its head and its argument, and an array of its elements. -/
theorem exists_wellFormed_generic (ofHead : IsAtom head.text ∧ head.WellFormed [head.text])
    (ofArgument : IsAtom argument.text ∧ argument.WellFormed [argument.text]) :
    ∃ atoms, (generic head argument).WellFormed atoms := by
  obtain ⟨headAtom, -, headLegal, headKnown, headComplete⟩ := ofHead
  obtain ⟨argumentAtom, -, argumentLegal, argumentKnown, argumentComplete⟩ := ofArgument
  rw [generic]
  split
  · -- The head of an array brings nothing with it.
    exact ⟨_, .array argumentAtom rfl rfl rfl, argumentLegal, argumentKnown, argumentComplete⟩
  · refine ⟨_, .generic headAtom argumentAtom rfl rfl rfl, ?_, headKnown.append argumentKnown, ?_⟩
    · exact List.forall_mem_append.mpr ⟨headLegal, argumentLegal⟩
    · rw [← List.singleton_append, List.filter_append]
      exact headComplete.append argumentComplete

/-- Every name is that of a type that is made of atoms. -/
theorem exists_wellFormed_ofName (token : String) (name : List Char) :
    ∃ atoms, (ofName token name).WellFormed atoms := by
  rw [ofName]
  split
  · obtain ⟨atoms, wellFormed⟩ := exists_wellFormed_generic (wellFormed_ofPart _) (wellFormed_ofPart _)
    exact ⟨atoms, wellFormed.referring token⟩
  · split
    · exact ⟨_, wellFormed_plain (by decide)⟩
    · have legal := Name.isLegalName_escapeReserved_sanitizeIdentifier (String.ofList name)
      exact ⟨_, (wellFormed_named legal).referring token⟩

/-- Whatever a text stands for is made of atoms. -/
theorem exists_wellFormed_ofText {format : Value} (made : ofText token format = .ok type) :
    ∃ atoms, type.WellFormed atoms := by
  rw [ofText] at made
  split at made
  · next primitive found =>
    cases made
    refine ⟨_, wellFormed_plain ?_⟩
    -- A primitive type is that of binary data, or one of the table.
    rw [mappedType?] at found
    split at found
    · cases found
      decide
    · exact List.mem_map_of_mem (mem_primitiveTypes found)
  · obtain ⟨name, -, made⟩ := Outcome.bind_eq_ok.mp made
    rw [← Outcome.pure_eq_ok.mp made]
    exact exists_wellFormed_ofName _ _

end TypeUse

variable {tokens : List String} {type : ResolvedType} {token : String} {format : Value}

/-- The type that a text token stands for is made of atoms. -/
theorem exists_wellFormed_of_resolveType (resolved : resolveType (.text token) format = .ok type) :
    ∃ atoms, type.WellFormed atoms := by
  obtain ⟨own, made, rfl⟩ := resolveType_scalar_eq_ok.mp resolved
  rw [TypeUse.ofToken] at made
  split at made
  · -- An empty token leaves the type unknown.
    cases made
    have primitive : "unknown" ∈ primitiveTypes.map Prod.snd := by decide
    exact ⟨_, TypeUse.wellFormed_plain primitive⟩
  split at made
  · cases made
    exact ⟨_, TypeUse.wellFormed_plain (by decide)⟩
  · exact TypeUse.exists_wellFormed_ofText made

/-- The types of the members of a list of texts are those of all but the ones for null. -/
theorem ofMembers_texts (format : Value) (tokens : List String) :
    ResolvedType.ofMembers format (tokens.map .text)
      = (tokens.filter (· != "null")).mapM fun token => resolveType (.text token) format := by
  induction tokens with
  | nil => rfl
  | cons token rest ih =>
    have null : (Value.text token).same (.text "null") = true ↔ token = "null" :=
      Value.beq_text.trans (by simp)
    rw [List.map_cons, ResolvedType.ofMembers, ih, List.filter_cons]
    by_cases same : token = "null"
    · rw [if_pos (null.mpr same), if_neg (by simpa using same)]
    · rw [if_neg (mt null.mp same), if_pos (by simpa using same), List.mapM_cons]
      rfl

/-- A list of texts stands for the union of the types of all but the ones for null, which these allow beside it. -/
theorem resolveType_texts (format : Value) (tokens : List String) :
    resolveType (.list (tokens.map .text)) format = ResolvedType.union (tokens.contains "null")
      <$> (tokens.filter (· != "null")).mapM fun token => resolveType (.text token) format := by
  have null : (Value.text "null").isIn (tokens.map .text) = tokens.contains "null" := by
    rw [Bool.eq_iff_iff, Value.isIn_text, List.contains_iff_mem]
    simp
  rw [resolveType, ResolvedType.ofValue, null, ofMembers_texts]
  rfl

/-- That null is allowed beside a union is all that it changes. -/
theorem union_eq (isNullable : Bool) (types : List ResolvedType) : ResolvedType.union isNullable types
    = { ResolvedType.union false types with isNullable := (ResolvedType.union false types).isNullable || isNullable } := by
  match types with
  | [] | [_] | _ :: _ :: _ => simp [ResolvedType.union]

/--
The type of a text is made of atoms, all of which it imports that are no primitive types.

The type of a list of texts is that of the list without null, but that null is allowed if it is in the list; and if
there are two others at least, it is the union of theirs.
-/
theorem resolveType_of_texts (format : Value) :
    (∀ token type, resolveType (.text token) format = .ok type → ∃ atoms, type.WellFormed atoms) ∧
      ∀ tokens : List String,
        resolveType (.list (tokens.map .text)) format
          = (fun type => { type with isNullable := type.isNullable || tokens.contains "null" })
            <$> resolveType (.list ((tokens.filter (· != "null")).map .text)) format ∧
        (2 ≤ (tokens.filter (· != "null")).length →
          resolveType (.list (tokens.map .text)) format
            = (fun types : List ResolvedType =>
                { text := " | ".intercalate (types.map (·.text))
                  base := " | ".intercalate (types.map (·.text))
                  imports := types.flatMap (·.imports)
                  refs := types.flatMap (·.refs)
                  isNullable := tokens.contains "null" })
              <$> (tokens.filter (· != "null")).mapM fun token => resolveType (.text token) format) := by
  refine ⟨fun token type => exists_wellFormed_of_resolveType, fun tokens => ⟨?_, fun several => ?_⟩⟩
  · have again : (tokens.filter (· != "null")).filter (· != "null") = tokens.filter (· != "null") := by
      simp [List.filter_filter]
    have none : (tokens.filter (· != "null")).contains "null" = false := by simp
    rw [resolveType_texts, resolveType_texts, again, none, Functor.map_map]
    exact congrArg (· <$> _) (funext (union_eq _))
  · rw [resolveType_texts]
    cases found : (tokens.filter (· != "null")).mapM fun token => resolveType (.text token) format with
    | error e => rfl
    | ok types =>
      -- There is a type for each of the others, so no single one stands alone.
      rw [(Outcome.mapM_eq_ok.mp found).length_eq] at several
      match types with
      | first :: second :: rest => rfl

/-- An array of a declared type, a generic type with a reserved word for its head, and null between them. -/
theorem resolveType_of_texts_nullable :
    let tokens := ["array[Pet]", "null", "#/definitions/delete[string]"]
    ∃ array generic both, resolveType (.text "array[Pet]") = .ok array ∧ array.text = "Pet[]" ∧
      (∃ atoms, array.WellFormed atoms) ∧
      resolveType (.text "#/definitions/delete[string]") = .ok generic ∧ generic.text = "delete_<string>" ∧
      (∃ atoms, generic.WellFormed atoms) ∧
      2 ≤ (tokens.filter (· != "null")).length ∧
      resolveType (.list (tokens.map .text)) = .ok both ∧ both.text = "Pet[] | delete_<string>" ∧
      both.imports = ["Pet", "delete_"] ∧ both.isNullable = true := by
  intro tokens
  obtain ⟨single, lists⟩ := resolveType_of_texts .null
  obtain ⟨array, arrayMade, seen⟩ := Outcome.exists_of_any (x := resolveType (.text "array[Pet]"))
    (p := fun type => type.text == "Pet[]" && type.imports == ["Pet"]) (by decide +kernel)
  obtain ⟨generic, genericMade, also⟩ := Outcome.exists_of_any
    (x := resolveType (.text "#/definitions/delete[string]"))
    (p := fun type => type.text == "delete_<string>" && type.imports == ["delete_"]) (by decide +kernel)
  simp only [Bool.and_eq_true, beq_iff_eq] at seen also
  have others : tokens.filter (· != "null") = ["array[Pet]", "#/definitions/delete[string]"] := by decide
  have union := (lists tokens).2 (by rw [others]; decide)
  rw [others, List.mapM_cons, List.mapM_cons, List.mapM_nil, arrayMade, genericMade] at union
  refine ⟨array, generic, _, arrayMade, seen.1, single _ _ arrayMade, genericMade, also.1, single _ _ genericMade,
    by rw [others]; decide, union, ?_, ?_, rfl⟩
  · simp [seen.1, also.1]
  · simp [seen.2, also.2]

end TypedClient
