import TypedClient.Proofs.Schema.Form
import TypedClient.Schema.Declared

/-! The parts of a schema, and how their models become part of its model. -/

namespace TypedClient

namespace Model

/-- Importing more puts the names behind those that are there. -/
@[simp] theorem imports_importing (m : Model) (imports refs : List String) :
    (m.importing imports refs).imports = m.imports ++ imports :=
  rfl

/-- Importing more puts the references behind those that are there. -/
@[simp] theorem refs_importing (m : Model) (imports refs : List String) :
    (m.importing imports refs).refs = m.refs ++ refs :=
  rfl

end Model

namespace Schema

/-- The properties that the members of a schema declare. -/
def declaredProperties (members : Members) : Members :=
  match members.get "properties" with
  | .map declared => declared
  | _ => []

/-- The schema of the further members of an object, if there is one that says anything. -/
def additionalSchema? (members : Members) : Option Value :=
  match members.get "additionalProperties" with
  | .map [] => none
  | .map (first :: rest) => some (.map (first :: rest))
  | _ => none

/-- Whether a schema allows nothing but null; a reference is not looked up. -/
def isNullTyped : Value → Bool
  | .map members =>
    !Members.has members "$ref" && (Members.get members "type" == .text "null"
      || Members.get members "type" == .list [.text "null"])
  | _ => false

/-- Whether a schema adds nothing to a type: it does not restrict it, or is a bare object. -/
def isBare : Value → Bool
  | .map members =>
    match Form.of members with
    | .anything => true
    | .token type =>
      match resolveType type (Members.get members "format") with
      | .ok type => type.text == "unknown"
      | .error _ => false
    | .dictionary => !(Members.get members "additionalProperties").truthy
    | _ => false
  | _ => false

/-- Whether an alternative of a composition is one of its parts. -/
def contributes (branch : Value) : Bool :=
  !isNullTyped branch && !isBare branch

variable {inner : Resolver} {members : Members} {common m : Model}

/-- A part that is a reference has nothing but its type; any other part is resolved as a schema. -/
def PartModel (inner : Resolver) (name part : Value) (m : Model) : Prop :=
  (∃ (members : Members) (ref : Value), part = .map members ∧ members.get? "$ref" = some ref ∧
    reference ref .unknown = .ok m) ∨ inner name part = .ok m

/-- A reference has the type that its target is known by. -/
theorem reference_eq_ok {ref : Value} :
    reference ref common = .ok m ↔ ∃ type, resolveType ref = .ok type ∧
      { common with variant := .reference, type := type.toTypeUse } = m := by
  simp [reference]

/-- A token has the type that it stands for. -/
theorem token_eq_ok {type format : Value} :
    token type format common = .ok m ↔ ∃ resolved, resolveType type format = .ok resolved ∧
      { common with
        type := resolved.toTypeUse
        isNullable := common.isNullable || resolved.isNullable } = m := by
  simp [token]

/-- A list has the type of what its items refer to, or that of the model of its items. -/
theorem array_eq_ok {items : Value} (made : array inner items common = .ok m) :
    (∃ (itemMembers : Members) (ref : Value) (type : ResolvedType), items = .map itemMembers ∧
      itemMembers.get? "$ref" = some ref ∧ resolveType ref = .ok type ∧
      m = { common with variant := .array, type := type.toTypeUse }) ∨
    ∃ link, inner (.text "") items = .ok link ∧
      m = { common with variant := .array, type := link.type, link := some link } := by
  simp only [array, Outcome.bind_eq_ok] at made
  obtain ⟨isReference, -, made⟩ := made
  -- Items that are a reference give the list their type without being resolved.
  cases isReference with
  | true =>
    simp only [if_true, Outcome.bind_eq_ok, Value.require_eq_ok] at made
    obtain ⟨ref, ⟨itemMembers, rfl, found⟩, type, typed, same⟩ := made
    exact .inl ⟨itemMembers, ref, type, rfl, found, typed, (Outcome.pure_eq_ok.mp same).symm⟩
  | false =>
    simp only [Bool.false_eq_true, if_false, Outcome.bind_eq_ok] at made
    obtain ⟨link, found, same⟩ := made
    exact .inr ⟨link, found, (Outcome.pure_eq_ok.mp same).symm⟩

/-- A property is a part under its key, with what is said beside its type. -/
theorem property_eq_ok {required : List Value} {key : Scalar} {schema : Value}
    (made : property inner required key schema = .ok m) :
    ∃ (model : Model) (parts : Members), schema = .map parts ∧
      PartModel inner (.scalar key) schema model ∧
      m = { model with
        name := .scalar key
        isRequired := (Value.scalar key).isIn required
        isReadOnly := (parts.get "readOnly").isTrue
        isNullable := model.isNullable || isNullable parts
        description := (parts.get "description").orNull
        deprecated := (parts.get "deprecated").isTrue } := by
  obtain ⟨isReference, -, made⟩ := Outcome.bind_eq_ok.mp made
  -- A reference is only looked up; anything else is resolved under the key.
  cases isReference with
  | true =>
    simp only [if_true, Outcome.bind_eq_ok, Value.require_eq_ok, Value.members_eq_ok] at made
    obtain ⟨ref, ⟨_, named, known⟩, model, found, parts, rfl, same⟩ := made
    cases named
    exact ⟨model, _, rfl, .inl ⟨_, ref, rfl, known, found⟩, (Outcome.pure_eq_ok.mp same).symm⟩
  | false =>
    simp only [Bool.false_eq_true, if_false, Outcome.bind_eq_ok, Value.members_eq_ok] at made
    obtain ⟨model, found, parts, rfl, same⟩ := made
    exact ⟨model, parts, rfl, .inr found, (Outcome.pure_eq_ok.mp same).symm⟩

/-- Whatever counts as absent declares no property, and so does an empty map. -/
theorem declaredProperties_eq {declared : Members}
    (found : ((members.get "properties").orElse (.map [])).members = .ok declared) :
    declaredProperties members = declared := by
  rw [Value.members_eq_ok] at found
  rw [declaredProperties]
  generalize members.get "properties" = given at found
  -- Only a map with entries counts as present.
  cases given with
  | map entries =>
    cases entries with
    | nil => cases found; rfl
    | cons first rest => cases found; rfl
  | _ =>
    rw [Value.orElse] at found
    split at found <;> cases found
    rfl

/-- Each declared property has its model, in their order. -/
theorem properties_eq_ok {models : List Model} (made : properties inner members = .ok models) :
    ∃ required, List.Forall₂
      (fun entry model => property inner required entry.1 entry.2 = .ok model)
      (declaredProperties members) models := by
  simp only [properties, Outcome.bind_eq_ok, Outcome.mapM_eq_ok] at made
  obtain ⟨required, -, declared, found, each⟩ := made
  exact ⟨required, declaredProperties_eq found ▸ each⟩

/-- The further members are a part without a name, or anything at all. -/
theorem additional_eq_ok (made : additional inner members = .ok m) :
    (additionalSchema? members = none ∧ m = .unknown) ∨
      ∃ schema, additionalSchema? members = some schema ∧ PartModel inner (.text "") schema m := by
  rw [additional] at made
  rw [additionalSchema?]
  generalize members.get "additionalProperties" = given at made
  -- Only a map with entries is a schema for further members; all else leaves them open.
  cases given with
  | map entries =>
    cases entries with
    | nil => exact .inl ⟨rfl, (Outcome.pure_eq_ok.mp made).symm⟩
    | cons first rest =>
      refine .inr ⟨_, rfl, ?_⟩
      cases known : Members.get? (first :: rest) "$ref" with
      | some ref => exact .inl ⟨_, ref, rfl, known, by simpa [known] using made⟩
      | none => exact .inr (by simpa [known] using made)
  | _ => exact .inl ⟨rfl, (Outcome.pure_eq_ok.mp made).symm⟩

/-- An object without properties has the type of its values. -/
theorem dictionary_eq_ok :
    dictionary inner members common = .ok m ↔ ∃ link, additional inner members = .ok link ∧
      { common with variant := .dictionary, type := link.type, link := some link } = m := by
  simp [dictionary]

/-- Properties come behind those that are there, with all they import and the enums they bring. -/
theorem withProperties_eq_ok {owner : Value} {models : List Model} :
    withProperties common owner models = .ok m ↔
      ∃ enums, models.mapM (propertyEnums owner) = .ok enums ∧
        { common.importing (models.flatMap Model.imports) (models.flatMap Model.refs) with
          properties := common.properties ++ models
          enums := common.enums ++ enums.flatten } = m := by
  simp [withProperties]

/-- An object has its properties, and the further members behind them if there may be any. -/
theorem interface_eq_ok (made : interface inner members common = .ok m) :
    ∃ models own, properties inner members = .ok models ∧
      withProperties { common with variant := .interface } common.name models = .ok own ∧
      ((members.get "additionalProperties").truthy = false ∧ m = own ∨
        (members.get "additionalProperties").truthy = true ∧
          ∃ index, additional inner members = .ok index ∧
            m = { own.importing index.imports index.refs with
              properties := own.properties ++ [{ index with name := .text indexSignature }] }) := by
  simp only [interface, Outcome.bind_eq_ok] at made
  obtain ⟨models, found, own, ownMade, made⟩ := made
  refine ⟨models, own, found, ownMade, ?_⟩
  -- The index signature stands behind the properties if further members are allowed.
  split at made
  · next allowed =>
    obtain ⟨index, indexMade, same⟩ := Outcome.bind_eq_ok.mp made
    exact .inr ⟨allowed, index, indexMade, (Outcome.pure_eq_ok.mp same).symm⟩
  · next closed => exact .inl ⟨by simpa using closed, (Outcome.pure_eq_ok.mp made).symm⟩

/-- Shared properties bring their enums to the composition. -/
theorem enums_withShared (kind : Composition) (model shared : Model) :
    (withShared kind model shared).enums = model.enums ++ shared.enums := by
  rw [withShared, Model.copies_eq]

/-- A composition has the models of its alternatives, and what is declared beside them with these. -/
theorem composition_eq_ok {kind : Composition} {alternatives : Value}
    (made : composition inner kind alternatives members common = .ok m) :
    ∃ parts models hasNull, alternatives.elements = .ok parts ∧
      branches inner parts = .ok (models, hasNull) ∧
      ((members.get "properties").truthy = false ∧ m = composedOf kind models hasNull common ∨
        (members.get "properties").truthy = true ∧
          ∃ declared shared, properties inner members = .ok declared ∧
            withProperties { variant := .interface, name := .text "properties", isRequired := true }
              common.name declared = .ok shared ∧
            m = withShared kind (composedOf kind models hasNull common) shared) := by
  simp only [composition, Outcome.bind_eq_ok] at made
  obtain ⟨parts, listed, ⟨models, hasNull⟩, found, made⟩ := made
  refine ⟨parts, models, hasNull, listed, found, ?_⟩
  dsimp only at made
  split at made
  · next given =>
    simp only [Outcome.bind_eq_ok] at made
    obtain ⟨declared, declaredMade, shared, sharedMade, same⟩ := made
    exact .inr ⟨given, declared, shared, declaredMade, sharedMade,
      (Outcome.pure_eq_ok.mp same).symm⟩
  · next absent => exact .inl ⟨by simpa using absent, (Outcome.pure_eq_ok.mp made).symm⟩

/-- The kind of type that a schema of a form stands for. -/
def Form.variant : Form → Variant
  | reference _ => .reference
  | enumeration => .enumeration
  | array _ => .array
  | composition kind _ => .composition kind
  | interface => .interface
  | dictionary => .dictionary
  | constant value => .constant value
  | token _ | anything => .generic

/-- The form of a schema settles the kind of its model, which keeps the name that it was given. -/
theorem variant_and_name_of_model {form : Form} (plain : common.variant = .generic)
    (made : form.model inner members common = .ok m) :
    m.variant = form.variant ∧ m.name = common.name := by
  -- Every form leaves the name alone; a token and an empty schema leave the kind alone too.
  cases form with
  | reference ref =>
    obtain ⟨type, -, rfl⟩ := reference_eq_ok.mp made
    exact ⟨rfl, rfl⟩
  | enumeration =>
    obtain ⟨enum, -, rfl⟩ := Outcome.map_eq_ok.mp made
    exact ⟨rfl, rfl⟩
  | array items =>
    obtain ⟨_, ref, type, -, -, -, rfl⟩ | ⟨link, -, rfl⟩ := array_eq_ok made <;> exact ⟨rfl, rfl⟩
  | composition kind alternatives =>
    obtain ⟨_, models, hasNull, -, -, ⟨-, rfl⟩ | ⟨-, declared, shared, -, -, rfl⟩⟩ :=
      composition_eq_ok made <;> exact ⟨rfl, rfl⟩
  | interface =>
    obtain ⟨models, own, -, ownMade, made⟩ := interface_eq_ok made
    obtain ⟨enums, -, rfl⟩ := withProperties_eq_ok.mp ownMade
    obtain ⟨-, rfl⟩ | ⟨-, index, -, rfl⟩ := made <;> exact ⟨rfl, rfl⟩
  | dictionary =>
    obtain ⟨link, -, rfl⟩ := dictionary_eq_ok.mp made
    exact ⟨rfl, rfl⟩
  | constant value =>
    cases made
    exact ⟨rfl, rfl⟩
  | token type =>
    obtain ⟨resolved, -, rfl⟩ := token_eq_ok.mp made
    exact ⟨plain, rfl⟩
  | anything =>
    cases made
    exact ⟨plain, rfl⟩

/-- A resolved model has the name that it is resolved under. -/
theorem name_of_resolve {name schema : Value} (resolved : resolve name schema = .ok m) :
    m.name = name := by
  obtain ⟨members, inner, -, made, -⟩ := resolve_eq_ok resolved
  exact (variant_and_name_of_model rfl made).2

/-- A named schema is resolved under its name, and differs from what is resolved by its default and
by whether it is declared. -/
theorem model_eq_ok {schema name default : Value} {isDefinition : Bool}
    (made : model schema isDefinition name default = .ok m) :
    ∃ (bare : Model) (default : Value), resolve name schema = .ok bare ∧
      m = { bare with isDefinition, default } := by
  simp only [model, Outcome.bind_eq_ok, Outcome.pure_eq_ok] at made
  obtain ⟨bare, resolved, members, -, rfl⟩ := made
  exact ⟨bare, _, resolved, rfl⟩

/-- An alternative is taken for one of null exactly if it allows nothing else. -/
theorem isNullBranch_eq_ok {branch : Value} {isNull : Bool}
    (told : isNullBranch branch = .ok isNull) : isNull = isNullTyped branch := by
  simp only [isNullBranch, Outcome.bind_eq_ok] at told
  obtain ⟨isReference, mentioned, told⟩ := told
  cases isReference with
  | true =>
    cases branch <;> simp_all [Value.mentions, isNullTyped, Pure.pure, Except.pure]
  | false =>
    simp only [Bool.false_eq_true, if_false, Outcome.bind_eq_ok, Value.get_eq_ok] at told
    obtain ⟨_, ⟨members, rfl, rfl⟩, same⟩ := told
    simp_all [Value.mentions, isNullTyped, Pure.pure, Except.pure]

/-- Whether an alternative is one of null can be told of every map. -/
theorem isNullBranch_map (parts : Members) : isNullBranch (.map parts) = .ok (isNullTyped (.map parts)) := by
  cases known : Members.has parts "$ref" <;>
    simp [isNullBranch, isNullTyped, Value.mentions, known, Value.get, Value.members]

/-- A resolved alternative is taken for an empty one exactly if its schema says nothing. -/
theorem isEmptyBranch_eq_ok {name branch : Value} {isEmpty : Bool}
    (resolved : resolve name branch = .ok m) (told : isEmptyBranch m branch = .ok isEmpty) :
    isEmpty = isBare branch := by
  obtain ⟨members, inner, rfl, made, -⟩ := resolve_eq_ok resolved
  have kind := (variant_and_name_of_model rfl made).1
  rw [isEmptyBranch, kind] at told
  rw [isBare]
  generalize Form.of members = form at made told
  -- Only what has no structure can be empty, so all other forms are settled by their kind.
  cases form with
  | token type =>
    obtain ⟨resolved, typed, rfl⟩ := token_eq_ok.mp made
    simp only [typed]
    exact (Outcome.pure_eq_ok.mp told).symm
  | anything =>
    cases made
    exact (Outcome.pure_eq_ok.mp told).symm
  | _ => exact (Outcome.pure_eq_ok.mp told).symm

/-- The alternatives that contribute have their models, in their order, and any other one that
allows nothing but null allows null for all. -/
theorem branches_eq_ok {parts : List Value} {models : List Model} {hasNull : Bool}
    (faithful : ∀ {name part m}, inner name part = .ok m → resolve name part = .ok m)
    (made : branches inner parts = .ok (models, hasNull)) :
    List.Forall₂ (fun part model => inner (.text "") part = .ok model)
      (parts.filter contributes) models ∧ hasNull = parts.any isNullTyped := by
  induction parts generalizing models hasNull with
  | nil =>
    cases made
    exact ⟨.nil, rfl⟩
  | cons branch rest ih =>
    simp only [branches, Outcome.bind_eq_ok] at made
    obtain ⟨isNull, nullTold, made⟩ := made
    have isNull_eq := isNullBranch_eq_ok nullTold
    cases isNull with
    | true =>
      -- The alternative is left out, and null is allowed beside the others.
      simp only [if_true, Outcome.bind_eq_ok] at made
      obtain ⟨⟨later, _⟩, laterMade, same⟩ := made
      obtain ⟨rfl, rfl⟩ := Prod.mk.inj (Outcome.pure_eq_ok.mp same)
      simp [contributes, ← isNull_eq, (ih laterMade).1]
    | false =>
      simp only [Bool.false_eq_true, if_false, Outcome.bind_eq_ok] at made
      obtain ⟨model, modelMade, isEmpty, emptyTold, ⟨later, _⟩, laterMade, same⟩ := made
      obtain ⟨rfl, rfl⟩ := Prod.mk.inj (Outcome.pure_eq_ok.mp same)
      have isEmpty_eq := isEmptyBranch_eq_ok (faithful modelMade) emptyTold
      obtain ⟨each, others⟩ := ih laterMade
      -- Only an alternative that says something has a model among those of the composition.
      cases isEmpty <;> simp [contributes, ← isNull_eq, ← isEmpty_eq, each, modelMade, others]

end Schema

end TypedClient
