import TypedClient.Proofs.Schema.TypeLists

/-! Alternatives of a composition that add nothing to its type: what a further one changes, wherever it stands. -/

namespace TypedClient

namespace Model

/-- The model with null allowed beside it, if it is to be. -/
def orNull (allowed : Bool) (m : Model) : Model :=
  { m with isNullable := m.isNullable || allowed }

theorem orNull_true (m : Model) : m.orNull true = m.allowingNull := by
  rw [orNull, Bool.or_true, allowingNull]

theorem orNull_false (m : Model) : m.orNull false = m := by
  cases m
  rw [orNull, Bool.or_false]

end Model

namespace Schema

variable {keyword : String} {members other : Members} {branch : Value}

/-- The schema is composed of what is listed under the keyword. -/
def ComposedBy (keyword : String) (members : Members) : Prop :=
  ∃ kind, (keyword, kind) ∈ compositions ∧ Form.of members = .composition kind (members.get keyword)

/-- The second schema has one more alternative under the keyword, at any place of the list. -/
structure Inserts (keyword : String) (branch : Value) (members other : Members) : Prop where
  beside : members.AgreeBeside keyword other
  listed : ∃ before after : List Value, members.get? keyword = some (.list (before ++ after)) ∧
    other.get? keyword = some (.list (before ++ branch :: after))

/-- The schema is resolved to a model that adds nothing to the type of a composition. -/
inductive AddsNothing : Value → Prop
  /-- The schema does not restrict the type. -/
  | generic {parts : Members} {m : Model} (resolved : resolve (.text "") (.map parts) = .ok m)
      (kind : m.variant = .generic) (untyped : m.type.text = "unknown") : AddsNothing (.map parts)
  /-- The schema is one of objects, and says neither what properties they have nor what further members. -/
  | object {parts : Members} {m : Model} (resolved : resolve (.text "") (.map parts) = .ok m)
      (kind : m.variant = .dictionary) (bare : (parts.get "additionalProperties").truthy = false) : AddsNothing (.map parts)

/-- An alternative that is left out of the union: it allows nothing but null, or adds nothing. -/
def IsIdle (branch : Value) : Prop :=
  isNullTyped branch = true ∨ AddsNothing branch

/-- What adds nothing is resolved, and then found to be empty. -/
theorem AddsNothing.exists_empty (nothing : AddsNothing branch) :
    ∃ parts m, branch = .map parts ∧ resolve (.text "") branch = .ok m ∧ isEmptyBranch m branch = .ok true := by
  cases nothing with
  | generic resolved kind untyped => exact ⟨_, _, rfl, resolved, by simp [isEmptyBranch, kind, untyped]⟩
  | object resolved kind bare =>
    exact ⟨_, _, rfl, resolved, by simp [isEmptyBranch, kind, bare, Value.get, Value.members]⟩

/-- An idle alternative in front of others leaves their models as they are, and can only allow null. -/
theorem branches_cons (idle : IsIdle branch) (rest : List Value) :
    branches resolve (branch :: rest)
      = (fun found => (found.1, found.2 || isNullTyped branch)) <$> branches resolve rest := by
  cases null : isNullTyped branch with
  | true =>
    cases branch with
    | map parts =>
      simp only [branches, isNullBranch_map, null, Bool.or_true]
      rfl
    | _ => cases null
  | false =>
    -- An alternative that allows more than null is idle only if it is found to be empty.
    have nothing := idle.resolve_left (by simp [null])
    obtain ⟨parts, m, rfl, resolved, empty⟩ := nothing.exists_empty
    simp only [branches, isNullBranch_map, null, resolved, Bool.or_false]
    change isEmptyBranch m (.map parts) >>= _ = _
    rw [empty]
    rfl

/-- An idle alternative between others leaves the models of all of them as they are, and can only allow null. -/
theorem branches_insert (idle : IsIdle branch) (before after : List Value) :
    branches resolve (before ++ branch :: after)
      = (fun found => (found.1, found.2 || isNullTyped branch)) <$> branches resolve (before ++ after) := by
  -- The alternatives in front of it are gone through first, and what they add does not depend on the rest.
  induction before with
  | nil => exact branches_cons idle after
  | cons first rest ih =>
    rw [List.cons_append, List.cons_append, branches, branches, ih]
    simp only [map_bind, bind_map_left]
    refine Outcome.bind_congr fun isNull _ => ?_
    cases isNull with
    | true => simp
    | false => simp

/-- A schema is a composition if it is nothing that is looked for before one. -/
theorem Form.of_eq_composition_iff {kind : Composition} {alternatives : Value} :
    Form.of members = .composition kind alternatives ↔ members.get? "$ref" = none ∧
      isEnumeration members = false ∧ (members.get "type" == .text "array" && (members.get "items").truthy) = false ∧
      composed? members = some (kind, alternatives) := by
  constructor
  · intro form
    simp only [Form.of, Form.ofStructure] at form
    -- Any of the other answers would have led to another form.
    refine ⟨?_, ?_, ?_, ?_⟩ <;> grind
  · rintro ⟨bare, noEnum, noList, composed⟩
    simp [Form.of, bare, noEnum, Form.ofStructure, noList, composed]

/-- There are three keywords that compose a schema. -/
theorem keyword_cases {kind : Composition} (known : (keyword, kind) ∈ compositions) :
    keyword = "allOf" ∧ kind = .allOf ∨ keyword = "anyOf" ∧ kind = .anyOf ∨ keyword = "oneOf" ∧ kind = .oneOf := by
  simpa [compositions] using known

/-- The keyword that a schema is composed by stays the one if it lists one more alternative. -/
theorem composed?_of_inserts (inserted : Inserts keyword branch members other) {kind : Composition}
    (known : (keyword, kind) ∈ compositions) (composed : composed? members = some (kind, members.get keyword)) :
    composed? other = some (kind, other.get keyword) := by
  obtain ⟨before, after, -, listed⟩ := inserted.listed
  have truthy : (other.get keyword).truthy = true := by
    simp [Members.get, listed, Value.truthy]
  have same := inserted.beside.get_eq
  -- Keywords that are tried before it have the same alternatives in both schemas, which is none.
  obtain ⟨rfl, rfl⟩ | ⟨rfl, rfl⟩ | ⟨rfl, rfl⟩ := keyword_cases known
  · simp [composed?, compositions, truthy]
  · have first := same "allOf" (by decide)
    simp only [composed?, compositions, List.findSome?_cons, first] at composed ⊢
    grind
  · have first := same "allOf" (by decide)
    have second := same "anyOf" (by decide)
    simp only [composed?, compositions, List.findSome?_cons, first, second] at composed ⊢
    grind

/-- A schema with one more alternative is composed as it was. -/
theorem form_of_inserts (inserted : Inserts keyword branch members other) {kind : Composition}
    (known : (keyword, kind) ∈ compositions) (form : Form.of members = .composition kind (members.get keyword)) :
    Form.of other = .composition kind (other.get keyword) := by
  obtain ⟨bare, noEnum, noList, composed⟩ := Form.of_eq_composition_iff.mp form
  refine Form.of_eq_composition_iff.mpr ⟨?_, ?_, ?_, composed?_of_inserts inserted known composed⟩
  all_goals obtain ⟨rfl, -⟩ | ⟨rfl, -⟩ | ⟨rfl, -⟩ := keyword_cases known
  all_goals simp_all [isEnumeration, ← inserted.beside.get_eq, ← inserted.beside "$ref"]

/-- What a schema says beside its alternatives is the same with one more of them. -/
theorem described_of_inserts (inserted : Inserts keyword branch members other) {kind : Composition}
    (known : (keyword, kind) ∈ compositions) (name : Value) : described name members = described name other := by
  have same := inserted.beside.get_eq
  obtain ⟨rfl, -⟩ | ⟨rfl, -⟩ | ⟨rfl, -⟩ := keyword_cases known <;> simp [described, isNullable, same]

/-- The properties beside alternatives are the same with one more of them. -/
theorem properties_of_inserts (inserted : Inserts keyword branch members other) {kind : Composition}
    (known : (keyword, kind) ∈ compositions) : properties resolve members = properties resolve other := by
  have same := inserted.beside.get_eq
  obtain ⟨rfl, -⟩ | ⟨rfl, -⟩ | ⟨rfl, -⟩ := keyword_cases known <;> simp [properties, same]

/-- The properties beside alternatives become part of a composition in the same way whether it allows null or not. -/
theorem withShared_orNull (kind : Composition) (null : Bool) (m shared : Model) :
    withShared kind (m.orNull null) shared = (withShared kind m shared).orNull null :=
  rfl

/-- A composition of the same alternatives allows null beside them if one more of these does. -/
theorem composedOf_orNull (kind : Composition) (models : List Model) (hasNull null : Bool) (common : Model) :
    composedOf kind models (hasNull || null) common = (composedOf kind models hasNull common).orNull null := by
  simp [composedOf, Model.orNull, Bool.or_assoc]

/-- An idle alternative changes nothing in a composition, unless it allows null. -/
theorem composition_of_inserts (inserted : Inserts keyword branch members other) {kind : Composition}
    (known : (keyword, kind) ∈ compositions) (idle : IsIdle branch) (common : Model) :
    composition resolve kind (other.get keyword) other common
      = Model.orNull (isNullTyped branch) <$> composition resolve kind (members.get keyword) members common := by
  obtain ⟨before, after, listed, listedMore⟩ := inserted.listed
  -- The properties are under another keyword than the alternatives, and stay as they are.
  have declared : (members.get "properties").truthy = (other.get "properties").truthy := by
    obtain ⟨rfl, -⟩ | ⟨rfl, -⟩ | ⟨rfl, -⟩ := keyword_cases known <;>
      rw [inserted.beside.get_eq "properties" (by decide)]
  have parts : (other.get keyword).elements = .ok (before ++ branch :: after) := by
    rw [Members.get, listedMore]
    rfl
  have fewer : (members.get keyword).elements = .ok (before ++ after) := by
    rw [Members.get, listed]
    rfl
  simp only [composition, parts, fewer, declared, properties_of_inserts inserted known]
  change branches resolve (before ++ branch :: after) >>= _ = _ <$> (branches resolve (before ++ after) >>= _)
  rw [branches_insert idle, bind_map_left, map_bind]
  refine Outcome.bind_congr fun found _ => ?_
  simp only [composedOf_orNull]
  split
  · simp only [map_bind, map_pure, withShared_orNull]
    rfl
  · rfl

/-- A schema that is composed of alternatives has the same model with an idle one more, unless this allows null. -/
theorem resolve_of_inserts (composed : ComposedBy keyword members)
    (inserted : Inserts keyword branch members other) (idle : IsIdle branch) (name : Value) :
    resolve name (.map other) = Model.orNull (isNullTyped branch) <$> resolve name (.map members) := by
  obtain ⟨kind, known, form⟩ := composed
  rw [resolve_eq, resolve_eq, form, form_of_inserts inserted known form, described_of_inserts inserted known]
  exact composition_of_inserts inserted known idle _

/-- A named schema has the same model with an idle alternative more, unless this allows null. -/
theorem model_of_inserts (composed : ComposedBy keyword members)
    (inserted : Inserts keyword branch members other) (idle : IsIdle branch) (isDefinition : Bool)
    (name default : Value) :
    model (.map other) isDefinition name default
      = Model.orNull (isNullTyped branch) <$> model (.map members) isDefinition name default := by
  have given : members.has "default" = other.has "default" := by
    obtain ⟨_, known, -⟩ := composed
    obtain ⟨rfl, -⟩ | ⟨rfl, -⟩ | ⟨rfl, -⟩ := keyword_cases known <;>
      exact inserted.beside.has_eq "default" (by decide)
  simp only [model, resolve_of_inserts composed inserted idle, map_bind, bind_map_left]
  refine Outcome.bind_congr fun m _ => ?_
  simp only [Value.members, Bind.bind, Except.bind, given]
  rfl

/-- A further alternative of null allows null and changes nothing else, and one that is resolved and adds nothing to
the type changes nothing at all, wherever in the list they stand. -/
theorem model_insert_idle (composed : ComposedBy keyword members)
    (inserted : Inserts keyword branch members other) (isDefinition : Bool) (name default : Value) :
    (isNullTyped branch = true → model (.map other) isDefinition name default
      = Model.allowingNull <$> model (.map members) isDefinition name default) ∧
    (isNullTyped branch = false → AddsNothing branch → model (.map other) isDefinition name default
      = model (.map members) isDefinition name default) := by
  constructor
  · intro null
    rw [model_of_inserts composed inserted (.inl null), null]
    exact congrArg (· <$> _) (funext Model.orNull_true)
  · intro more nothing
    rw [model_of_inserts composed inserted (.inr nothing), more]
    refine (congrArg (· <$> _) (funext Model.orNull_false)).trans ?_
    exact id_map _

/-- Null between two enums, whose names are numbered, and a bare object in front of them. -/
theorem model_insert_idle_enums :
    let enum (value : String) : Value := .map [(.text "enum", .list [.text value])]
    let null : Value := .map [(.text "type", .list ["null"])]
    let object : Value := .map [(.text "type", "object"), (.text "additionalProperties", .bool false)]
    let schema (alternatives : List Value) : Members := [
      (.text "description", "Either of two enums"), (.text "anyOf", .list alternatives),
      (.text "properties", .map [(.text "size", enum "small")])]
    ∃ m, model (.map (schema [enum "a", enum "b"])) true (.text "Mixed") .null = .ok m ∧
      m.enums.map (·.name.display) = ["MixedEnum", "MixedEnum2", "MixedSize"] ∧ m.isNullable = false ∧
      model (.map (schema [enum "a", null, enum "b"])) true (.text "Mixed") .null = .ok m.allowingNull ∧
      model (.map (schema [object, enum "a", enum "b"])) true (.text "Mixed") .null = .ok m := by
  intro enum null object schema
  obtain ⟨m, made, seen⟩ := Outcome.exists_of_any
    (x := model (.map (schema [enum "a", enum "b"])) true (.text "Mixed") .null)
    (p := fun m => m.enums.map (·.name.display) == ["MixedEnum", "MixedEnum2", "MixedSize"] && !m.isNullable)
    (by decide +kernel)
  obtain ⟨named, notNull⟩ : m.enums.map (·.name.display) = ["MixedEnum", "MixedEnum2", "MixedSize"] ∧
      m.isNullable = false := by simpa using seen
  have composed : ComposedBy "anyOf" (schema [enum "a", enum "b"]) := ⟨.anyOf, by decide, rfl⟩
  have inserted (branch : Value) (before after : List Value) :
      Inserts "anyOf" branch (schema (before ++ after)) (schema (before ++ branch :: after)) :=
    ⟨Members.agreeBeside_append [_] _, before, after, rfl, rfl⟩
  obtain ⟨bare, resolved, kind⟩ := Outcome.exists_of_any (x := resolve (.text "") object)
    (p := fun m => m.variant matches .dictionary) (by decide +kernel)
  have nothing : AddsNothing object := .object resolved (by cases v : bare.variant <;> simp_all) rfl
  have withNull := (model_insert_idle composed (inserted null [enum "a"] [enum "b"]) true (.text "Mixed") .null).1 rfl
  have withObject :=
    (model_insert_idle composed (inserted object [] [enum "a", enum "b"]) true (.text "Mixed") .null).2 rfl nothing
  exact ⟨m, made, named, notNull, withNull.trans (by rw [made]; rfl), withObject.trans made⟩

end Schema

end TypedClient
