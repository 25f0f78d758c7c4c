import TypedClient.Proofs.Schema.Parts
import TypedClient.Proofs.Value.Size
import TypedClient.Schema.Declared

/-! The type tokens of a schema, from which all that its model imports comes. -/

namespace TypedClient

namespace Schema

/-- A type token of a schema with the format beside it. -/
structure Token where
  type : Value
  format : Value := .null

/-- The type that a token stands for. -/
def Token.resolve (token : Token) : Outcome ResolvedType :=
  resolveType token.type token.format

/-- The alternatives of a composition that contribute to it. -/
def contributing (alternatives : Value) : List Value :=
  match alternatives.elements with
  | .ok parts => parts.filter contributes
  | .error _ => []

/-- The tokens of a schema with the given members, where `inner` gives those of its parts. -/
def tokensOfMembers (inner : Value → List Token) (members : Members) : List Token :=
  let ofProperties := (declaredProperties members).flatMap fun entry => inner entry.2
  match Form.of members with
  | .reference ref => [{ type := ref }]
  | .array items => inner items
  | .composition _ alternatives => (contributing alternatives).flatMap inner ++ ofProperties
  | .interface | .dictionary => ofProperties ++ (additionalSchema? members).toList.flatMap inner
  | .token type => [{ type, format := members.get "format" }]
  -- The values of an enum and a single value are written out and need no name.
  | .enumeration | .constant _ | .anything => []

/-- The tokens of a schema in the order in which they stand for its type. -/
def tokens (schema : Value) : List Token :=
  match schema with
  | .map members =>
    -- Every part of a schema is smaller, as the equation below says.
    tokensOfMembers (fun part => if part.size < (Value.map members).size then tokens part else []) members
  | _ => []
termination_by schema.size

/-- A list names its items, and is only one if they are given. -/
theorem Form.eq_of_array {members : Members} {items : Value}
    (form : Form.of members = .array items) :
    items = members.get "items" ∧ (members.get "items").truthy = true := by
  simp only [Form.of, Form.ofStructure] at form
  grind

/-- A composition has what its keyword gives as alternatives, and is only one if there are any. -/
theorem Form.eq_of_composition {members : Members} {kind : Composition} {alternatives : Value}
    (form : Form.of members = .composition kind alternatives) :
    ∃ keyword, (keyword, kind) ∈ compositions ∧ alternatives = members.get keyword ∧
      (members.get keyword).truthy = true := by
  have found : composed? members = some (kind, alternatives) := by
    simp only [Form.of, Form.ofStructure] at form
    grind
  obtain ⟨⟨keyword, _⟩, known, chosen⟩ := List.exists_of_findSome?_eq_some found
  refine ⟨keyword, ?_⟩
  grind

/-- A schema that is read by its type has one. -/
theorem Form.get?_of_token {members : Members} {type : Value} (form : Form.of members = .token type) :
    members.get? "type" = some type := by
  simp only [Form.of, Form.ofStructure] at form
  grind

/-- A dictionary has no properties. -/
theorem Form.falsy_of_dictionary {members : Members} (form : Form.of members = .dictionary) :
    (members.get "properties").truthy = false := by
  simp only [Form.of, Form.ofStructure] at form
  grind

/-- Properties that count as absent declare nothing. -/
theorem declaredProperties_of_falsy {members : Members}
    (absent : (members.get "properties").truthy = false) : declaredProperties members = [] := by
  rw [declaredProperties]
  split
  · next declared given => simpa [given, Value.truthy] using absent
  · rfl

/-- Further members that count as absent have no schema. -/
theorem additionalSchema?_of_falsy {members : Members}
    (absent : (members.get "additionalProperties").truthy = false) :
    additionalSchema? members = none := by
  rw [additionalSchema?]
  split
  · rfl
  · next first rest given => simp [given, Value.truthy] at absent
  · rfl

/-- A declared property is smaller than the schema. -/
theorem size_lt_of_mem_declaredProperties {members : Members} {entry : Scalar × Value}
    (mem : entry ∈ declaredProperties members) : entry.2.size < (Value.map members).size := by
  have given : members.get "properties" = .map (declaredProperties members) := by
    rw [declaredProperties] at mem ⊢
    split at mem
    · next found => exact found
    · cases mem
  -- The map of the properties has an entry, so it is present and smaller than the schema.
  have truthy : (members.get "properties").truthy = true := by
    rw [given, Value.truthy]
    simpa using List.ne_nil_of_mem mem
  have smaller := Value.size_get_lt truthy
  have := Value.size_le_sizeOfMembers mem
  rw [given] at smaller
  simp only [Value.size] at smaller ⊢
  omega

/-- The schema of further members is smaller than the schema. -/
theorem size_lt_of_additionalSchema? {members : Members} {schema : Value}
    (found : additionalSchema? members = some schema) : schema.size < (Value.map members).size := by
  have given : members.get "additionalProperties" = schema ∧ schema.truthy = true := by
    rw [additionalSchema?] at found
    split at found
    · cases found
    · next given =>
      cases found
      exact ⟨given, rfl⟩
    · cases found
  obtain ⟨rfl, truthy⟩ := given
  exact Value.size_get_lt truthy

/-- An alternative is no larger than all alternatives. -/
theorem size_le_of_mem_contributing {alternatives branch : Value}
    (mem : branch ∈ contributing alternatives) : branch.size ≤ alternatives.size := by
  rw [contributing] at mem
  split at mem
  · next listed => exact Value.size_le_of_mem_elements listed (List.mem_filter.mp mem).1
  · cases mem

/-- Only what the parts of a schema have for tokens makes a difference. -/
theorem tokensOfMembers_congr {members : Members} {f g : Value → List Token}
    (same : ∀ part : Value, part.size < (Value.map members).size → f part = g part) :
    tokensOfMembers f members = tokensOfMembers g members := by
  -- Properties, further members, items and alternatives are all smaller than the schema.
  have ofProperties : (declaredProperties members).flatMap (fun entry => f entry.2)
      = (declaredProperties members).flatMap fun entry => g entry.2 :=
    List.flatMap_congr fun entry mem => same entry.2 (size_lt_of_mem_declaredProperties mem)
  have ofAdditional : (additionalSchema? members).toList.flatMap f
      = (additionalSchema? members).toList.flatMap g :=
    List.flatMap_congr fun part mem => same part
      (size_lt_of_additionalSchema? (Option.mem_toList.mp mem))
  simp only [tokensOfMembers, ofProperties, ofAdditional]
  cases form : Form.of members with
  | array items =>
    obtain ⟨rfl, truthy⟩ := Form.eq_of_array form
    exact same _ (Value.size_get_lt truthy)
  | composition kind alternatives =>
    obtain ⟨keyword, -, rfl, truthy⟩ := Form.eq_of_composition form
    have ofAlternatives : (contributing (members.get keyword)).flatMap f
        = (contributing (members.get keyword)).flatMap g :=
      List.flatMap_congr fun branch mem => same branch <|
        Nat.lt_of_le_of_lt (size_le_of_mem_contributing mem) (Value.size_get_lt truthy)
    dsimp only
    rw [ofAlternatives]
  | _ => rfl

/-- The tokens of a schema are made up of the tokens of its parts. -/
theorem tokens_map (members : Members) : tokens (.map members) = tokensOfMembers tokens members := by
  rw [tokens]
  exact tokensOfMembers_congr fun part smaller => if_pos smaller

/-- Names and references are those that tokens stand for, one token after the other. -/
def Collects (tokens : List Token) (imports refs : List String) : Prop :=
  ∃ types, List.Forall₂ (fun token type => token.resolve = .ok type) tokens types ∧
    imports = types.flatMap (·.imports) ∧ refs = types.flatMap (·.refs)

namespace Collects

variable {imports refs moreImports moreRefs : List String}

/-- Without tokens there is nothing to import. -/
theorem nil : Collects [] [] [] :=
  ⟨[], .nil, rfl, rfl⟩

/-- A single token gives what its type needs. -/
theorem singleton {token : Token} {type : ResolvedType} (resolved : token.resolve = .ok type) :
    Collects [token] type.imports type.refs :=
  ⟨[type], .cons resolved .nil, by simp, by simp⟩

/-- What two rows of tokens give is put together as they are. -/
theorem append {tokens more : List Token} (first : Collects tokens imports refs)
    (second : Collects more moreImports moreRefs) :
    Collects (tokens ++ more) (imports ++ moreImports) (refs ++ moreRefs) := by
  obtain ⟨types, resolved, rfl, rfl⟩ := first
  obtain ⟨later, laterResolved, rfl, rfl⟩ := second
  exact ⟨types ++ later, List.rel_append resolved laterResolved, by simp, by simp⟩

/-- What parts give is put together in the order of the parts. -/
theorem flatMap {α : Type} {tokensOf : α → List Token} {parts : List α} {models : List Model}
    (each : List.Forall₂ (fun part m => Collects (tokensOf part) m.imports m.refs) parts models) :
    Collects (parts.flatMap tokensOf) (models.flatMap Model.imports) (models.flatMap Model.refs) := by
  induction each with
  | nil => exact nil
  | cons head _ ih => simpa using head.append ih

end Collects

/-- A part that is a reference gives what the reference needs, as a schema with it does. -/
theorem collects_of_partModel {inner : Resolver} {name part : Value} {m : Model}
    (resolved : PartModel inner name part m)
    (known : ∀ {name part m}, inner name part = .ok m → Collects (tokens part) m.imports m.refs) :
    Collects (tokens part) m.imports m.refs := by
  obtain ⟨members, ref, rfl, found, made⟩ | made := resolved
  · obtain ⟨type, typed, rfl⟩ := reference_eq_ok.mp made
    rw [tokens_map, tokensOfMembers, Form.of, found]
    exact .singleton typed
  · exact known made

/-- The properties of a schema give what their tokens need, in their order. -/
theorem collects_of_properties {inner : Resolver} {members : Members} {models : List Model}
    (made : properties inner members = .ok models)
    (known : ∀ {name part m}, inner name part = .ok m → Collects (tokens part) m.imports m.refs) :
    Collects ((declaredProperties members).flatMap fun entry => tokens entry.2)
      (models.flatMap Model.imports) (models.flatMap Model.refs) := by
  obtain ⟨required, each⟩ := properties_eq_ok made
  refine Collects.flatMap (each.imp fun entry m found => ?_)
  -- What a property says beside its type does not change what it imports.
  obtain ⟨model, parts, -, resolved, rfl⟩ := property_eq_ok found
  have collected := collects_of_partModel resolved known
  exact collected

/-- The further members of an object give what their schema needs. -/
theorem collects_of_additional {inner : Resolver} {members : Members} {m : Model}
    (made : additional inner members = .ok m)
    (known : ∀ {name part m}, inner name part = .ok m → Collects (tokens part) m.imports m.refs) :
    Collects ((additionalSchema? members).toList.flatMap tokens) m.imports m.refs := by
  obtain ⟨absent, rfl⟩ | ⟨schema, given, resolved⟩ := additional_eq_ok made
  · rw [absent]
    exact .nil
  · simpa [given] using collects_of_partModel resolved known

/-- A resolved schema imports what its tokens need, and nothing else. -/
theorem collects_of_resolve {name schema : Value} {m : Model} (resolved : resolve name schema = .ok m) :
    Collects (tokens schema) m.imports m.refs := by
  refine resolve_induction (P := fun _ schema m => Collects (tokens schema) m.imports m.refs) ?_ resolved
  intro name members inner m within made
  have known {name part m} (found : inner name part = .ok m) := (within found).2
  rw [tokens_map, tokensOfMembers]
  cases form : Form.of members with
  | reference ref =>
    rw [form] at made
    obtain ⟨type, typed, rfl⟩ := reference_eq_ok.mp made
    exact .singleton typed
  | enumeration =>
    rw [form] at made
    obtain ⟨enum, -, rfl⟩ := Outcome.map_eq_ok.mp made
    exact .nil
  | array items =>
    rw [form] at made
    obtain ⟨itemMembers, ref, type, rfl, found, typed, rfl⟩ | ⟨link, found, rfl⟩ := array_eq_ok made
    · -- Items that are a reference have it for their only token.
      dsimp only
      rw [tokens_map, tokensOfMembers, Form.of, found]
      exact .singleton typed
    · have collected := known found
      exact collected
  | composition kind alternatives =>
    rw [form] at made
    obtain ⟨parts, models, hasNull, listed, found, beside⟩ := composition_eq_ok made
    have each := (branches_eq_ok (fun inside => (within inside).1) found).1
    have ofAlternatives : Collects ((contributing alternatives).flatMap tokens)
        (models.flatMap Model.imports) (models.flatMap Model.refs) := by
      rw [contributing, listed]
      exact .flatMap (each.imp fun branch m found => known found)
    obtain ⟨absent, rfl⟩ | ⟨-, declared, shared, declaredMade, sharedMade, rfl⟩ := beside
    · -- Without properties beside the alternatives, these are all.
      have none : declaredProperties members = [] := declaredProperties_of_falsy absent
      simp only [none, List.flatMap_nil, List.append_nil]
      exact ofAlternatives
    · obtain ⟨enums, -, rfl⟩ := withProperties_eq_ok.mp sharedMade
      have ofProperties := collects_of_properties declaredMade known
      exact ofAlternatives.append ofProperties
  | interface =>
    rw [form] at made
    obtain ⟨models, own, found, ownMade, beside⟩ := interface_eq_ok made
    obtain ⟨enums, -, rfl⟩ := withProperties_eq_ok.mp ownMade
    have ofProperties := collects_of_properties found known
    obtain ⟨closed, rfl⟩ | ⟨-, index, indexMade, rfl⟩ := beside
    · simp only [additionalSchema?_of_falsy closed, Option.toList_none, List.flatMap_nil,
        List.append_nil]
      exact ofProperties
    · exact ofProperties.append (collects_of_additional indexMade known)
  | dictionary =>
    simp only [declaredProperties_of_falsy (Form.falsy_of_dictionary form)]
    rw [form] at made
    obtain ⟨link, found, rfl⟩ := dictionary_eq_ok.mp made
    have collected := collects_of_additional found known
    exact collected
  | constant value =>
    rw [form] at made
    cases made
    exact .nil
  | token type =>
    rw [form] at made
    obtain ⟨resolved, typed, rfl⟩ := token_eq_ok.mp made
    exact .singleton typed
  | anything =>
    rw [form] at made
    cases made
    exact .nil

/-- The model of a schema imports what its tokens stand for, one token after the other, and goes back
to their references in the same order. -/
theorem imports_refs_of_model {schema name default : Value} {isDefinition : Bool} {m : Model}
    (resolved : model schema isDefinition name default = .ok m) :
    ∃ types, (tokens schema).mapM Token.resolve = .ok types ∧
      m.imports = types.flatMap (·.imports) ∧ m.refs = types.flatMap (·.refs) := by
  obtain ⟨bare, _, found, rfl⟩ := model_eq_ok resolved
  obtain ⟨types, each, imports, refs⟩ := collects_of_resolve found
  exact ⟨types, Outcome.mapM_eq_ok.mpr each, imports, refs⟩

/-- Alternatives of which one allows null and one says nothing, with properties beside them. -/
theorem imports_refs_of_model_composition :
    let reference (name : String) : Value := .map [(.text "$ref", .text ("#/definitions/" ++ name))]
    let schema : Value := .map [
      (.text "allOf", .list [
        reference "Base", .map [(.text "type", "null")], .map [(.text "type", "object")],
        .map [(.text "type", "array"), (.text "items", reference "Page[Item]")]]),
      (.text "properties", .map [
        (.text "owner", reference "User"),
        (.text "labels", .map [
          (.text "properties", .map [(.text "first", .map [(.text "type", "Label")])]),
          (.text "additionalProperties", .map [(.text "type", .list ["Base", "null", "string"])])])])]
    ∃ m types, model schema true (.text "Order") .null = .ok m ∧
      m.imports = ["Base", "Page", "Item", "User", "Label", "Base"] ∧
      (tokens schema).mapM Token.resolve = .ok types ∧
      m.imports = types.flatMap (·.imports) ∧ m.refs = types.flatMap (·.refs) := by
  intro reference schema
  obtain ⟨m, resolved, imports⟩ := Outcome.exists_of_any (x := model schema true (.text "Order") .null)
    (p := fun m => m.imports == ["Base", "Page", "Item", "User", "Label", "Base"]) (by decide +kernel)
  obtain ⟨types, each, held⟩ := imports_refs_of_model resolved
  exact ⟨m, types, resolved, by simpa using imports, each, held⟩

end Schema

end TypedClient
