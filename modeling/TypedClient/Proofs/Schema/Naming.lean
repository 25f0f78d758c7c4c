import TypedClient.Proofs.Schema.Parts
import TypedClient.Proofs.Schema.TypeUse
import TypedClient.Proofs.Text.Percent
import TypedClient.Schema.Declared

/-! The names under which schemas are declared, and the names that references to them use. -/

namespace TypedClient

namespace Schema

/-- The places of a document that hold schemas. -/
def schemaPlaces : List String :=
  ["#/definitions/", "#/components/schemas/"]

/-- The name that references use for the schema with a key. -/
def referencedName (key : String) : String :=
  (TypeUse.ofName key (Text.trim key.toList)).base

/-- No place stands in front of a text without a number sign. -/
theorem afterPlace?_of_local {cs : List Char} (hash : '#' ∉ cs) :
    afterPlace? componentPlaces cs = none := by
  -- Every place has a number sign.
  have marked : ∀ place ∈ componentPlaces, '#' ∈ place.toList := by decide
  exact afterPlace?_eq_none_iff.mpr fun place mem begins => hash (begins.subset (marked place mem))

/-- Behind one of the places of schemas stands the name. -/
theorem afterPlace?_append {place : String} (known : place ∈ schemaPlaces) (cs : List Char) :
    afterPlace? componentPlaces (place.toList ++ cs) = some cs := by
  simp only [schemaPlaces, List.mem_cons, List.not_mem_nil, or_false] at known
  rcases known with rfl | rfl <;> rfl

/-- A text token that is not empty stands for its type, whatever else a token could be. -/
theorem resolveType_of_ofText {token : String} {type : TypeUse} (nonempty : token ≠ "")
    (made : TypeUse.ofText token .null = .ok type) :
    resolveType (.text token) = .ok { toTypeUse := type } := by
  have truthy : (Value.text token).truthy = true := by
    simpa [Value.truthy, Scalar.truthy] using nonempty
  have direct : TypeUse.ofToken (.text token) .null = .ok type := by
    rw [TypeUse.ofToken, truthy]
    exact made
  exact resolveType_scalar_eq_ok.mpr ⟨type, direct, rfl⟩

/-- A name that is not primitive is that of a type without its place and its escapes. -/
theorem ofText_of_stripped {token : String} {name : List Char}
    (other : primitiveTypes.lookup token = none) (percent : '%' ∉ name)
    (stripped : stripNamespace token = .ok (String.ofList name)) :
    TypeUse.ofText token .null = .ok (TypeUse.ofName token name) := by
  have unmapped : mappedType? token .null = none := other
  rw [TypeUse.ofText, unmapped, stripped]
  change (.ok (TypeUse.ofName token (Text.percentDecode (String.ofList name).toList)) : Outcome _) = _
  rw [String.toList_ofList, Text.percentDecode_eq_self percent]

/-- A key stands for the primitive type of its name if there is one, and else for the name that
references use. -/
theorem base_of_key {key : String} (hash : '#' ∉ key.toList) (percent : '%' ∉ key.toList) :
    ∃ type, resolveType (.text key) = .ok type ∧
      type.base = (primitiveTypes.lookup key).getD (referencedName key) := by
  -- The empty key stands for the unknown type, as does a reference to it.
  by_cases empty : key = ""
  · subst empty
    exact ⟨{}, rfl, rfl⟩
  cases primitive : primitiveTypes.lookup key with
  | some name =>
    have mapped : mappedType? key .null = some name := primitive
    have made : TypeUse.ofText key .null = .ok (.plain name) := by rw [TypeUse.ofText, mapped]
    exact ⟨_, resolveType_of_ofText empty made, rfl⟩
  | none =>
    have stripped : stripNamespace key = .ok (String.ofList (Text.trim key.toList)) := by
      have local_ : '#' ∉ Text.trim key.toList := fun mem => hash (Text.trim_subset _ mem)
      rw [stripNamespace, afterPlace?_of_local local_]
      simp [local_]
    have unescaped : '%' ∉ Text.trim key.toList := fun mem => percent (Text.trim_subset _ mem)
    exact ⟨_, resolveType_of_ofText empty (ofText_of_stripped primitive unescaped stripped), rfl⟩

/-- A reference stands for the name that is used for its schema. -/
theorem base_of_reference {place key : String} (known : place ∈ schemaPlaces)
    (percent : '%' ∉ key.toList)
    (seen : '\n' ∈ key.toList.takeWhile Text.isBlank → genericParts? (Text.trim key.toList) = none) :
    ∃ type, resolveType (.text (place ++ key)) = .ok type ∧ type.base = referencedName key := by
  obtain ⟨rest, split, solid⟩ : ∃ rest, place.toList = '#' :: rest ∧
      Text.trimEnd ('#' :: rest) = '#' :: rest := by
    simp only [schemaPlaces, List.mem_cons, List.not_mem_nil, or_false] at known
    rcases known with rfl | rfl <;> exact ⟨_, rfl, by decide⟩
  have written : (place ++ key).toList = '#' :: rest ++ key.toList := by
    rw [String.toList_append, split]
  have nonempty : place ++ key ≠ "" := by
    intro none
    simp [none] at written
  -- No primitive token starts with a number sign.
  have other : primitiveTypes.lookup (place ++ key) = none := by
    have starts : ∀ entry ∈ primitiveTypes, entry.1.toList.head? ≠ some '#' := by decide
    refine List.lookup_eq_none_iff.mpr fun entry mem => ?_
    rw [bne_iff_ne]
    intro same
    exact starts entry mem (by rw [← same, written]; rfl)
  have stripped : stripNamespace (place ++ key) = .ok (String.ofList (Text.trimEnd key.toList)) := by
    rw [stripNamespace, written, Text.trim_append_of_solid (by decide) solid, ← split,
      afterPlace?_append known]
  have unescaped : '%' ∉ Text.trimEnd key.toList := fun mem => percent (Text.trimEnd_subset _ mem)
  refine ⟨_, resolveType_of_ofText nonempty (ofText_of_stripped other unescaped stripped), ?_⟩
  -- Only blanks in front are left of what the key itself is trimmed by.
  obtain ⟨lead, trimmed, blank, whole⟩ := Text.exists_lead key.toList
  dsimp only
  rw [trimmed]
  exact TypeUse.base_ofName_append (fun c mem => List.mem_takeWhile_imp (blank mem)) whole
    fun line => seen (blank line)

/-- A primitive type has the name that references use for its token in three cases only. -/
theorem primitive_eq_referencedName_iff {key primitive : String}
    (found : primitiveTypes.lookup key = some primitive) :
    primitive = referencedName key ↔ key ∈ ["boolean", "number", "string"] := by
  -- There are few primitive tokens, and each of them can be looked at.
  have each : ∀ entry ∈ primitiveTypes,
      (entry.2 = referencedName entry.1 ↔ entry.1 ∈ ["boolean", "number", "string"]) := by
    decide +kernel
  exact each (key, primitive) (mem_primitiveTypes found)

/-- The model of a schema has the name that it is made under. -/
theorem name_of_model {schema name default : Value} {isDefinition : Bool} {m : Model}
    (made : model schema isDefinition name default = .ok m) : m.name = name := by
  obtain ⟨bare, _, resolved, rfl⟩ := model_eq_ok made
  have kept := name_of_resolve resolved
  exact kept

/-- A schema is declared under the type of its key, in the place of its entry. -/
theorem name_of_models {document : Value} {ms : List Model} {entries : Members} {i : Nat}
    {key : Scalar} {schema : Value} (built : models document = .ok ms)
    (listed : Document.schemas document = .ok (.map entries))
    (placed : entries[i]? = some (key, schema)) :
    ∃ m type, ms[i]? = some m ∧ resolveType (.scalar key) = .ok type ∧ m.name = .text type.base := by
  simp only [models, listed, Outcome.bind_eq_ok, Value.members_eq_ok, Outcome.mapM_eq_ok,
    Outcome.pure_eq_ok] at built
  obtain ⟨_, given, _, named, ofSchemas, each, _, -, _, -, ofParameters, -, rfl⟩ := built
  cases given
  cases named
  -- The models of the schemas come first, each in the place of its schema.
  obtain ⟨inside, same⟩ := List.getElem?_eq_some_iff.mp placed
  have sameLength := each.length_eq
  have made := (List.forall₂_iff_get.mp each).2 i inside (sameLength ▸ inside)
  rw [List.get_eq_getElem, same] at made
  obtain ⟨type, typed, made⟩ := Outcome.bind_eq_ok.mp made
  refine ⟨ofSchemas[i], type, ?_, typed, ?_⟩
  · rw [List.getElem?_append_left (sameLength ▸ inside)]
    exact List.getElem?_eq_getElem _
  · exact name_of_model made

/-- The model of a reference has the type that the reference stands for. -/
theorem model_reference {ref name default : Value} {isDefinition : Bool} {type : ResolvedType}
    (typed : resolveType ref = .ok type) :
    ∃ r, model (.map [(.text "$ref", ref)]) isDefinition name default = .ok r ∧
      r.type = type.toTypeUse := by
  have resolved : resolve name (.map [(.text "$ref", ref)])
      = reference ref (described name [(.text "$ref", ref)]) := resolve_map ..
  rw [model, resolved, reference, typed]
  exact ⟨_, rfl, rfl⟩

/-- A schema is declared under the name that references to it use, unless its key is a token for a
primitive type of another name. -/
theorem name_eq_base_iff {document schema name default : Value} {ms : List Model}
    {entries : Members} {i : Nat} {key place : String} {isDefinition : Bool}
    (built : models document = .ok ms) (listed : Document.schemas document = .ok (.map entries))
    (placed : entries[i]? = some (.text key, schema)) (known : place ∈ schemaPlaces)
    (hash : '#' ∉ key.toList) (percent : '%' ∉ key.toList)
    (seen : '\n' ∈ key.toList.takeWhile Text.isBlank → genericParts? (Text.trim key.toList) = none) :
    ∃ m r, ms[i]? = some m ∧
      model (.map [(.text "$ref", .text (place ++ key))]) isDefinition name default = .ok r ∧
      (m.name = .text r.type.base ↔
        (key ∈ primitiveTypes.map Prod.fst → key ∈ ["boolean", "number", "string"])) := by
  obtain ⟨m, own, there, ownTyped, named⟩ := name_of_models built listed placed
  obtain ⟨_, keyTyped, ownBase⟩ := base_of_key hash percent
  obtain rfl := Except.ok.inj (ownTyped.symm.trans keyTyped)
  obtain ⟨type, typed, base⟩ := base_of_reference known percent seen
  obtain ⟨r, resolved, same⟩ := model_reference typed
  refine ⟨m, r, there, resolved, ?_⟩
  -- Both names are known, so what is left is to compare them.
  rw [named, same, base, ownBase, Value.scalar.injEq, Scalar.text.injEq]
  cases primitive : primitiveTypes.lookup key with
  | some name =>
    have isToken : key ∈ primitiveTypes.map Prod.fst :=
      List.mem_map_of_mem (mem_primitiveTypes primitive)
    rw [Option.getD_some, primitive_eq_referencedName_iff primitive]
    exact ⟨fun kept _ => kept, fun kept => kept isToken⟩
  | none =>
    -- A key that is no token is read like the name in a reference.
    have noToken : key ∉ primitiveTypes.map Prod.fst := by
      rw [List.mem_map]
      rintro ⟨entry, mem, rfl⟩
      simpa using List.lookup_eq_none_iff.mp primitive entry mem
    simp [noToken]

/-- A generic name with blanks around it, one part of which is a reserved word. -/
theorem name_eq_base_iff_generic :
    let key := " \tdelete[Item]\n"
    let reference : Value := .map [(.text "$ref", .text ("#/components/schemas/" ++ key))]
    let document : Value := .map [(.text "openapi", "3.0.1"), (.text "components", .map [
      (.text "schemas", .map [
        (.text "Item", .map [(.text "type", "string")]), (.text key, .map [(.text "type", "object")])])])]
    '#' ∉ key.toList ∧ '%' ∉ key.toList ∧ '\n' ∉ key.toList.takeWhile Text.isBlank ∧
    ∃ ms m r, models document = .ok ms ∧ ms[1]? = some m ∧
      model reference false (.text "") .null = .ok r ∧
      r.type.base = "delete_" ∧ m.name = .text r.type.base := by
  intro key reference document
  have hash : '#' ∉ key.toList := by decide
  have percent : '%' ∉ key.toList := by decide
  have line : '\n' ∉ key.toList.takeWhile Text.isBlank := by decide
  obtain ⟨ms, built, -⟩ := Outcome.exists_of_any (x := models document) (p := fun _ => true)
    (by decide +kernel)
  obtain ⟨r, resolved, base⟩ := Outcome.exists_of_any (x := model reference false (.text "") .null)
    (p := fun r => r.type.base == "delete_") (by decide +kernel)
  obtain ⟨m, _, there, same, named⟩ :=
    name_eq_base_iff built rfl (i := 1) rfl
      (show "#/components/schemas/" ∈ schemaPlaces by decide) hash percent
      fun mem => absurd mem line
  obtain rfl := Except.ok.inj (resolved.symm.trans same)
  exact ⟨hash, percent, line, ms, m, r, built, there, resolved, by simpa using base,
    named.mpr (by decide)⟩

/-- A schema whose key is the token for a date is declared as a text. -/
theorem name_ne_base_date :
    let document : Value := .map [(.text "swagger", "2.0"), (.text "definitions", .map [
      (.text "date", .map [(.text "type", "string")])])]
    let reference : Value := .map [(.text "$ref", "#/definitions/date")]
    ∃ ms m r, models document = .ok ms ∧ ms[0]? = some m ∧
      model reference false (.text "") .null = .ok r ∧
      m.name ≠ .text r.type.base := by
  intro document reference
  obtain ⟨ms, built, -⟩ := Outcome.exists_of_any (x := models document) (p := fun _ => true)
    (by decide +kernel)
  obtain ⟨r, resolved, base⟩ := Outcome.exists_of_any (x := model reference false (.text "") .null)
    (p := fun r => r.type.base == "date") (by decide +kernel)
  obtain ⟨m, type, there, typed, named⟩ := name_of_models built rfl (i := 0) rfl
  obtain rfl := Except.ok.inj typed
  refine ⟨ms, m, r, built, there, resolved, ?_⟩
  have other : r.type.base = "date" := by simpa using base
  rw [named, other]
  simp [TypeUse.plain]

end Schema

end TypedClient
