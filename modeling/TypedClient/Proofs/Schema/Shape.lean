import TypedClient.Proofs.Schema.NestedEnums
import TypedClient.Proofs.Schema.Tokens
import TypedClient.Proofs.Value.Part

/-! The shape of resolved schemas: what every model in the tree of a schema holds, each by its kind. -/

namespace TypedClient

/-- The items of a list are given as a reference. -/
def Schema.RefersToItems (members : Members) : Prop :=
  ∃ (items : Members) (ref : Value), members.get "items" = .map items ∧ items.get? "$ref" = some ref

namespace Model

/-- The second model is a node of the tree of the first one. -/
inductive HasNode : Model → Model → Prop
  | self (m : Model) : HasNode m m
  | ofProperty {m p n : Model} (mem : p ∈ m.properties) (node : HasNode p n) : HasNode m n
  | ofEnum {m e n : Model} (mem : e ∈ m.enums) (node : HasNode e n) : HasNode m n
  | ofLink {m l n : Model} (linked : m.link = some l) (node : HasNode l n) : HasNode m n

/-- The models hold the same, whatever their names are and whatever is said about them. -/
structure SameBody (m other : Model) : Prop where
  variant : m.variant = other.variant
  type : m.type = other.type
  properties : m.properties = other.properties
  enum : m.enum = other.enum
  enums : m.enums = other.enums
  link : m.link = other.link

/-- The model holds no other model and no values. -/
structure IsLeaf (m : Model) : Prop where
  properties : m.properties = []
  enum : m.enum = []
  enums : m.enums = []
  link : m.link = none

/-- The model holds what that of a list inside the schema does: its items, unless they are a reference. -/
def LinksItems (schema : Value) (m : Model) : Prop :=
  ∃ (members : Members) (name : Value) (list : Model), Value.IsPart (.map members) schema ∧
    Schema.resolve name (.map members) = .ok list ∧ m.SameBody list ∧
    (m.link = none ↔ Schema.RefersToItems members)

/-- The model holds what its kind asks for and nothing else. -/
def FitsKind (schema : Value) (m : Model) : Prop :=
  match m.variant with
  | .reference | .generic | .constant _ => m.IsLeaf
  | .enumeration => m.enum ≠ [] ∧ m.properties = [] ∧ m.enums = [] ∧ m.link = none
  | .dictionary => m.link ≠ none ∧ m.properties = [] ∧ m.enum = [] ∧ m.enums = []
  | .array => m.LinksItems schema ∧ m.properties = [] ∧ m.enum = [] ∧ m.enums = []
  | .interface => m.properties ≠ [] ∧ m.link = none ∧ m.enum = []
  | .composition kind =>
    m.link = none ∧ m.enum = [] ∧ (kind = .allOf ∨ kind = .anyOf ∨ kind = .oneOf)
  | .untyped _ => False

/-- A node of the tree of a schema: it fits its kind, and enums inside it are enums with a name. -/
structure IsWellShaped (schema : Value) (m : Model) : Prop where
  fits : m.FitsKind schema
  enums : ∀ e ∈ m.enums, e.isEnum = true ∧ e.label ≠ ""

/-- Every node of the model is well shaped. -/
def AllShaped (schema : Value) (m : Model) : Prop :=
  ∀ n, m.HasNode n → n.IsWellShaped schema

variable {schema part : Value} {m other e : Model}

/-- A model that is as it should be is so throughout if everything that it holds is. -/
theorem AllShaped.of_parts (own : m.IsWellShaped schema)
    (properties : ∀ p ∈ m.properties, p.AllShaped schema)
    (enums : ∀ e ∈ m.enums, e.AllShaped schema)
    (link : ∀ l, m.link = some l → l.AllShaped schema) : m.AllShaped schema := by
  intro n node
  cases node with
  | self => exact own
  | ofProperty mem node => exact properties _ mem n node
  | ofEnum mem node => exact enums _ mem n node
  | ofLink linked node => exact link _ linked n node

/-- A model that holds nothing is well shaped if its kind asks for nothing. -/
theorem AllShaped.of_leaf (leaf : m.IsLeaf) (fits : m.FitsKind schema) : m.AllShaped schema := by
  refine .of_parts ⟨fits, ?_⟩ ?_ ?_ ?_
  · simp [leaf.enums]
  · simp [leaf.properties]
  · simp [leaf.enums]
  · simp [leaf.link]

/-- What is said beside the type of a model makes no difference to its shape. -/
theorem AllShaped.of_sameBody (held : m.AllShaped schema) (same : other.SameBody m) :
    other.AllShaped schema := by
  obtain ⟨fits, enums⟩ := held m (.self m)
  refine .of_parts ⟨?_, by rwa [same.enums]⟩ ?_ ?_ ?_
  · -- Only a list goes back to its schema, as does the one that it has the body of.
    obtain ⟨variant, type, properties, enum, nested, link⟩ := same
    rw [FitsKind] at fits ⊢
    rw [variant]
    cases kind : m.variant with
    | array =>
      simp only [kind] at fits
      obtain ⟨⟨members, name, list, inside, resolved, body, linked⟩, rest⟩ := fits
      refine ⟨⟨members, name, list, inside, resolved, ?_, by rw [link, linked]⟩, ?_⟩
      · exact ⟨variant.trans body.variant, type.trans body.type, properties.trans body.properties,
          enum.trans body.enum, nested.trans body.enums, link.trans body.link⟩
      · rwa [properties, enum, nested]
    | reference | generic | constant =>
      simp only [kind] at fits
      exact ⟨properties.trans fits.properties, enum.trans fits.enum, nested.trans fits.enums,
        link.trans fits.link⟩
    | untyped => simp only [kind] at fits
    | _ => simpa only [kind, properties, enum, nested, link] using fits
  · rw [same.properties]
    exact fun p mem n node => held n (.ofProperty mem node)
  · rw [same.enums]
    exact fun e mem n node => held n (.ofEnum mem node)
  · rw [same.link]
    exact fun l linked n node => held n (.ofLink linked node)

/-- What is well shaped for a part of a schema is so for the schema. -/
theorem AllShaped.mono (held : m.AllShaped part) (inside : Value.IsPart part schema) :
    m.AllShaped schema := by
  intro n node
  obtain ⟨fits, enums⟩ := held n node
  refine ⟨?_, enums⟩
  rw [FitsKind] at fits ⊢
  cases kind : n.variant with
  | array =>
    simp only [kind] at fits
    obtain ⟨⟨members, name, list, within, rest⟩, bare⟩ := fits
    exact ⟨⟨members, name, list, within.trans inside, rest⟩, bare⟩
  | untyped => simp only [kind] at fits
  | _ => simpa only [kind] using fits

/-- An enum that a model brings with it, or that it is itself under another name, is one and has a name. -/
theorem AllShaped.of_origin (held : m.AllShaped schema) (origin : e ∈ m.enums ∨ m.LiftedAs e) :
    (e.isEnum = true ∧ e.label ≠ "") ∧ e.AllShaped schema := by
  rcases origin with brought | lifted
  · exact ⟨(held m (.self m)).enums e brought, fun n node => held n (.ofEnum brought node)⟩
  · obtain ⟨isEnum, ⟨name, rfl⟩, named⟩ := lifted
    exact ⟨⟨isEnum, named⟩, held.of_sameBody ⟨rfl, rfl, rfl, rfl, rfl, rfl⟩⟩

end Model

namespace Schema

open Model (AllShaped)

variable {inner : Resolver} {members : Members} {common m : Model}

/-- An object that declares properties has some. -/
theorem Form.truthy_of_interface (form : Form.of members = .interface) :
    (members.get "properties").truthy = true := by
  simp only [Form.of, Form.ofStructure] at form
  grind

/-- An enum lists a value to choose from. -/
theorem Form.listed_of_enumeration (form : Form.of members = .enumeration) :
    listsEnumerable (members.get "enum") = true := by
  simp only [Form.of, Form.ofStructure, isEnumeration] at form
  grind

/-- Alternatives are combined in one of three ways. -/
theorem Form.kind_of_composition {kind : Composition} {alternatives : Value}
    (form : Form.of members = .composition kind alternatives) :
    kind = .allOf ∨ kind = .anyOf ∨ kind = .oneOf := by
  have found : composed? members = some (kind, alternatives) := by
    simp only [Form.of, Form.ofStructure] at form
    grind
  obtain ⟨⟨keyword, known⟩, listed, chosen⟩ := List.exists_of_findSome?_eq_some found
  have same : known = kind := by grind
  simp only [compositions, List.mem_cons, Prod.mk.injEq, List.not_mem_nil, or_false] at listed
  grind

/-- A declared property is a part of the schema. -/
theorem isPart_of_mem_declaredProperties {entry : Scalar × Value}
    (mem : entry ∈ declaredProperties members) : Value.IsPart entry.2 (.map members) := by
  rw [declaredProperties] at mem
  split at mem
  · next declared given =>
    have truthy : (members.get "properties").truthy = true := by
      simpa [given, Value.truthy] using List.ne_nil_of_mem mem
    have whole := Value.isPart_of_truthy truthy
    rw [given] at whole
    exact .trans (.member mem (.self _)) whole
  · cases mem

/-- The schema of the further members of an object is a part of that of the object. -/
theorem isPart_of_additionalSchema? {schema : Value} (found : additionalSchema? members = some schema) :
    Value.IsPart schema (.map members) := by
  rw [additionalSchema?] at found
  split at found
  · cases found
  · next first rest given =>
    cases found
    rw [← given]
    exact Value.isPart_of_truthy (by simp [given, Value.truthy])
  · cases found

/-- A list has a link unless its items are a reference. -/
theorem link_of_array (made : array inner (members.get "items") common = .ok m)
    (bare : common.link = none) : m.link = none ↔ RefersToItems members := by
  obtain ⟨items, ref, type, given, found, -, rfl⟩ | ⟨link, found, rfl⟩ := array_eq_ok made
  · exact iff_of_true bare ⟨items, ref, given, found⟩
  · refine iff_of_false (by simp) ?_
    -- Items that are a reference are not resolved, so there would be no link.
    rintro ⟨items, ref, given, known⟩
    have asked : (Value.map items).mentions "$ref" = .ok true := by
      simp [Value.mentions, Members.has, known]
    rw [given, array] at made
    obtain ⟨isReference, told, made⟩ := Outcome.bind_eq_ok.mp made
    cases asked.symm.trans told
    simp only [if_true, Outcome.bind_eq_ok, Outcome.pure_eq_ok] at made
    obtain ⟨_, -, type, -, same⟩ := made
    simpa [bare] using congrArg Model.link same

/-- A schema that declares properties has models of them. -/
theorem properties_ne_nil {models : List Model} (made : properties inner members = .ok models)
    (given : (members.get "properties").truthy = true) : models ≠ [] := by
  simp only [properties, Outcome.bind_eq_ok, Outcome.mapM_eq_ok, Value.members_eq_ok,
    Value.orElse, given, if_true] at made
  obtain ⟨required, -, declared, found, each⟩ := made
  -- There are as many models as properties, and properties that count as true are some.
  rintro rfl
  cases each
  simp [found, Value.truthy] at given

/-- The parts of a schema are well shaped if all that is resolved inside it is. -/
theorem allShaped_of_partModel {name part : Value} (resolved : PartModel inner name part m)
    (known : ∀ {name part m}, inner name part = .ok m → m.AllShaped part) : m.AllShaped part := by
  obtain ⟨_, ref, -, -, made⟩ | made := resolved
  · obtain ⟨type, -, rfl⟩ := reference_eq_ok.mp made
    exact .of_leaf ⟨rfl, rfl, rfl, rfl⟩ ⟨rfl, rfl, rfl, rfl⟩
  · exact known made

/-- The properties of a schema are well shaped if their parts are. -/
theorem allShaped_of_properties {models : List Model} (made : properties inner members = .ok models)
    (known : ∀ {name part m}, inner name part = .ok m → m.AllShaped part) :
    ∀ p ∈ models, p.AllShaped (.map members) := by
  obtain ⟨required, each⟩ := properties_eq_ok made
  intro p inside
  obtain ⟨entry, declared, found⟩ := Outcome.exists_related each.flip inside
  obtain ⟨model, parts, -, resolved, rfl⟩ := property_eq_ok found
  have held := (allShaped_of_partModel resolved known).mono (isPart_of_mem_declaredProperties declared)
  exact held.of_sameBody ⟨rfl, rfl, rfl, rfl, rfl, rfl⟩

/-- The model of the further members of an object is well shaped if that of their schema is. -/
theorem allShaped_of_additional (made : additional inner members = .ok m)
    (known : ∀ {name part m}, inner name part = .ok m → m.AllShaped part) :
    m.AllShaped (.map members) := by
  obtain ⟨-, rfl⟩ | ⟨schema, given, resolved⟩ := additional_eq_ok made
  · exact .of_leaf ⟨rfl, rfl, rfl, rfl⟩ ⟨rfl, rfl, rfl, rfl⟩
  · exact (allShaped_of_partModel resolved known).mono (isPart_of_additionalSchema? given)

/-- An object with the given properties is well shaped if these are and there are some. -/
theorem allShaped_of_withProperties {schema owner : Value} {models : List Model}
    (made : withProperties common owner models = .ok m) (kind : common.variant = .interface)
    (bare : common.IsLeaf) (some : models ≠ []) (shaped : ∀ p ∈ models, p.AllShaped schema) :
    m.AllShaped schema := by
  obtain ⟨each, found, rfl⟩ := withProperties_eq_ok.mp made
  -- Each enum is one that a property brings with it, or the property itself.
  have enums : ∀ e ∈ common.enums ++ each.flatten,
      (e.isEnum = true ∧ e.label ≠ "") ∧ e.AllShaped schema := by
    intro e mem
    simp only [bare.enums, List.nil_append] at mem
    obtain ⟨enums, inEach, mem⟩ := List.mem_flatten.mp mem
    obtain ⟨p, inside, made⟩ := Outcome.exists_item found inEach
    exact (shaped p inside).of_origin (mem_propertyEnums made mem)
  refine .of_parts ⟨?_, fun e mem => (enums e mem).1⟩ ?_ (fun e mem => (enums e mem).2) ?_
  · rw [Model.FitsKind]
    simp only [Model.importing, kind]
    exact ⟨by simp [some], bare.link, bare.enum⟩
  · simpa [bare.properties] using shaped
  · simp [Model.importing, bare.link]

/-- A further property leaves an object well shaped. -/
theorem allShaped_append_property {schema : Value} {p : Model} {imports refs : List String}
    (held : m.AllShaped schema) (kind : m.variant = .interface) (added : p.AllShaped schema) :
    ({ m.importing imports refs with properties := m.properties ++ [p] } : Model).AllShaped schema := by
  obtain ⟨fits, enums⟩ := held m (.self m)
  rw [Model.FitsKind, kind] at fits
  refine .of_parts ⟨?_, enums⟩ ?_ (fun e mem n node => held n (.ofEnum mem node))
    fun l linked n node => held n (.ofLink linked node)
  · rw [Model.FitsKind]
    simp only [Model.importing, kind]
    exact ⟨by simp, fits.2⟩
  · exact List.forall_mem_append.mpr
      ⟨fun p mem n node => held n (.ofProperty mem node), by simpa using added⟩

/-- An object is well shaped if all that is resolved inside it is. -/
theorem allShaped_of_interface (made : interface inner members common = .ok m) (bare : common.IsLeaf)
    (given : (members.get "properties").truthy = true)
    (known : ∀ {name part m}, inner name part = .ok m → m.AllShaped part) :
    m.AllShaped (.map members) := by
  obtain ⟨models, own, found, ownMade, beside⟩ := interface_eq_ok made
  have shaped := allShaped_of_properties found known
  have held := allShaped_of_withProperties ownMade rfl
    ⟨bare.properties, bare.enum, bare.enums, bare.link⟩ (properties_ne_nil found given) shaped
  obtain ⟨-, rfl⟩ | ⟨-, index, indexMade, rfl⟩ := beside
  · exact held
  · obtain ⟨each, -, rfl⟩ := withProperties_eq_ok.mp ownMade
    -- The further members are a property under a name of its own.
    have added := allShaped_of_additional indexMade known
    exact allShaped_append_property held rfl (added.of_sameBody ⟨rfl, rfl, rfl, rfl, rfl, rfl⟩)

/-- A composition of the given alternatives is well shaped if these are. -/
theorem allShaped_composedOf {schema : Value} {kind : Composition} {models : List Model}
    {hasNull : Bool} (known : kind = .allOf ∨ kind = .anyOf ∨ kind = .oneOf) (bare : common.IsLeaf)
    (shaped : ∀ p ∈ models, p.AllShaped schema) :
    (composedOf kind models hasNull common).AllShaped schema := by
  have enums : ∀ e ∈ branchEnums common.name 0 models,
      (e.isEnum = true ∧ e.label ≠ "") ∧ e.AllShaped schema := by
    intro e mem
    obtain ⟨p, inside, origin⟩ := mem_branchEnums mem
    exact (shaped p inside).of_origin origin
  refine .of_parts ⟨⟨bare.link, bare.enum, known⟩, fun e mem => (enums e mem).1⟩ shaped
    (fun e mem => (enums e mem).2) ?_
  simp [composedOf, Model.importing, bare.link]

/-- An alternative with the shared properties is well shaped if both are. -/
theorem allShaped_sharing {schema : Value} {shared alternative : Model}
    (held : shared.AllShaped schema) (shaped : alternative.AllShaped schema) :
    (sharing shared alternative).AllShaped schema := by
  refine .of_parts ⟨⟨rfl, rfl, .inl rfl⟩, by simp [sharing]⟩ ?_ (by simp [sharing]) (by simp [sharing])
  simpa [sharing] using ⟨shaped, held⟩

/-- A composition stays well shaped when shared properties are added to it. -/
theorem allShaped_withShared {schema : Value} {kind : Composition} {shared : Model}
    (held : m.AllShaped schema) (known : m.variant = .composition kind)
    (sharedHeld : shared.AllShaped schema) : (withShared kind m shared).AllShaped schema := by
  obtain ⟨fits, enums⟩ := held m (.self m)
  rw [Model.FitsKind, known] at fits
  have ofProperty {p : Model} (mem : p ∈ m.properties) : p.AllShaped schema :=
    fun n node => held n (.ofProperty mem node)
  refine .of_parts ⟨?_, ?_⟩ ?_ ?_ fun l linked n node => held n (.ofLink linked node)
  · rw [Model.FitsKind]
    simp only [withShared, Model.importing, known]
    exact fits
  · rw [enums_withShared]
    exact List.forall_mem_append.mpr ⟨enums, (sharedHeld shared (.self shared)).enums⟩
  · -- The properties are one more part of an intersection, and are in each part of a union.
    simp only [withShared]
    split
    · exact List.forall_mem_append.mpr ⟨fun p mem => ofProperty mem, by simpa using sharedHeld⟩
    · intro p mem
      obtain ⟨alternative, inside, rfl⟩ := List.mem_map.mp mem
      exact allShaped_sharing sharedHeld (ofProperty inside)
  · rw [enums_withShared]
    exact List.forall_mem_append.mpr ⟨fun e mem n node => held n (.ofEnum mem node),
      fun e mem n node => sharedHeld n (.ofEnum mem node)⟩

/-- A composition is well shaped if all that is resolved inside it is. -/
theorem allShaped_of_composition {kind : Composition} {keyword : String}
    (made : composition inner kind (members.get keyword) members common = .ok m)
    (truthy : (members.get keyword).truthy = true)
    (ofKind : kind = .allOf ∨ kind = .anyOf ∨ kind = .oneOf) (bare : common.IsLeaf)
    (faithful : ∀ {name part m}, inner name part = .ok m → resolve name part = .ok m)
    (known : ∀ {name part m}, inner name part = .ok m → m.AllShaped part) :
    m.AllShaped (.map members) := by
  obtain ⟨parts, models, hasNull, listed, found, beside⟩ := composition_eq_ok made
  have each := (branches_eq_ok faithful found).1
  have shaped : ∀ p ∈ models, p.AllShaped (.map members) := by
    intro p inside
    obtain ⟨part, contributes, resolved⟩ := Outcome.exists_related each.flip inside
    -- What is resolved is a map, and those among the alternatives are parts of the schema.
    obtain ⟨partMembers, _, rfl, -, -⟩ := resolve_eq_ok (faithful resolved)
    have within := Value.isPart_of_mem_elements listed (List.mem_filter.mp contributes).1
    exact (known resolved).mono (within.trans (Value.isPart_of_truthy truthy))
  have held : (composedOf kind models hasNull common).AllShaped _ :=
    allShaped_composedOf ofKind bare shaped
  obtain ⟨-, rfl⟩ | ⟨given, declared, shared, declaredMade, sharedMade, rfl⟩ := beside
  · exact held
  · have sharedHeld := allShaped_of_withProperties sharedMade rfl ⟨rfl, rfl, rfl, rfl⟩
      (properties_ne_nil declaredMade given) (allShaped_of_properties declaredMade known)
    exact allShaped_withShared held rfl sharedHeld

/-- A list is well shaped if what is resolved for its items is. -/
theorem allShaped_of_array {name : Value} (made : array inner (members.get "items") common = .ok m)
    (here : resolve name (.map members) = .ok m) (truthy : (members.get "items").truthy = true)
    (bare : common.IsLeaf) (known : ∀ {name part m}, inner name part = .ok m → m.AllShaped part) :
    m.AllShaped (.map members) := by
  have linked := link_of_array made bare.link
  obtain ⟨held, kind, properties, enum, enums⟩ : (∀ l, m.link = some l → l.AllShaped (.map members)) ∧
      m.variant = .array ∧ m.properties = [] ∧ m.enum = [] ∧ m.enums = [] := by
    obtain ⟨_, ref, type, -, -, -, rfl⟩ | ⟨link, found, rfl⟩ := array_eq_ok made
    · exact ⟨by simp [bare.link], rfl, bare.properties, bare.enum, bare.enums⟩
    · refine ⟨?_, rfl, bare.properties, bare.enum, bare.enums⟩
      rintro l ⟨⟩
      exact (known found).mono (Value.isPart_of_truthy truthy)
  refine .of_parts ⟨?_, by simp [enums]⟩ (by simp [properties]) (by simp [enums]) held
  rw [Model.FitsKind, kind]
  -- The list that it has the body of is itself.
  exact ⟨⟨members, name, m, .self _, here, ⟨rfl, rfl, rfl, rfl, rfl, rfl⟩, linked⟩, properties, enum, enums⟩

/-- Every node of the tree of a schema is well shaped. -/
theorem allShaped_of_resolve {name schema : Value} (resolved : resolve name schema = .ok m) :
    m.AllShaped schema := by
  refine resolve_induction (P := fun name schema m => resolve name schema = .ok m → m.AllShaped schema)
    ?_ resolved resolved
  intro name members inner m within made here
  have known {name part m} (found : inner name part = .ok m) : m.AllShaped part :=
    (within found).2 (within found).1
  have bare : (described name members).IsLeaf := ⟨rfl, rfl, rfl, rfl⟩
  -- There is one case for each form; a form without parts gives a leaf.
  cases form : Form.of members <;> rw [form] at made
  case reference ref =>
    obtain ⟨type, -, rfl⟩ := reference_eq_ok.mp made
    exact .of_leaf ⟨rfl, rfl, rfl, rfl⟩ ⟨rfl, rfl, rfl, rfl⟩
  case enumeration =>
    obtain ⟨enum, found, rfl⟩ := Outcome.map_eq_ok.mp made
    have some := enumValues_ne_nil (Form.listed_of_enumeration form) found
    refine .of_parts ⟨⟨some, rfl, rfl, rfl⟩, ?_⟩ ?_ ?_ ?_ <;> simp [Form.enumerationOf, described]
  case array items =>
    obtain ⟨rfl, truthy⟩ := Form.eq_of_array form
    exact allShaped_of_array made here truthy bare known
  case composition kind alternatives =>
    obtain ⟨keyword, -, rfl, truthy⟩ := Form.eq_of_composition form
    exact allShaped_of_composition made truthy (Form.kind_of_composition form) bare
      (fun inside => (within inside).1) known
  case interface => exact allShaped_of_interface made bare (Form.truthy_of_interface form) known
  case dictionary =>
    obtain ⟨link, found, rfl⟩ := dictionary_eq_ok.mp made
    have held := allShaped_of_additional found known
    refine .of_parts ⟨⟨by simp, rfl, rfl, rfl⟩, ?_⟩ ?_ ?_ ?_ <;> simp [described, held]
  case constant value =>
    cases made
    exact .of_leaf ⟨rfl, rfl, rfl, rfl⟩ ⟨rfl, rfl, rfl, rfl⟩
  case token type =>
    obtain ⟨resolved, -, rfl⟩ := token_eq_ok.mp made
    exact .of_leaf ⟨rfl, rfl, rfl, rfl⟩ ⟨rfl, rfl, rfl, rfl⟩
  case anything =>
    cases made
    exact .of_leaf ⟨rfl, rfl, rfl, rfl⟩ ⟨rfl, rfl, rfl, rfl⟩

/-- Whatever is found in the tree of the model of a schema fits its kind, and the enums inside it are
enums with a name. -/
theorem isWellShaped_of_model {schema name default : Value} {isDefinition : Bool} {n : Model}
    (made : model schema isDefinition name default = .ok m) (node : m.HasNode n) :
    n.IsWellShaped schema := by
  obtain ⟨bare, _, resolved, same⟩ := model_eq_ok made
  have body : m.SameBody bare := by
    rw [same]
    exact ⟨rfl, rfl, rfl, rfl, rfl, rfl⟩
  exact (allShaped_of_resolve resolved).of_sameBody body n node

/-- An enum in the properties that are shared by the alternatives of a union, one of them a list. -/
theorem isWellShaped_of_model_shared :
    let schema : Value := .map [
      (.text "oneOf", .list [
        .map [(.text "type", "array"),
          (.text "items", .map [(.text "$ref", "#/definitions/Line")])],
        .map [(.text "enum", .list ["none"])]]),
      (.text "properties", .map [(.text "status", .map [(.text "enum", .list ["open", "paid"])])])]
    ∃ m n, model schema true (.text "Order") .null = .ok m ∧ m.HasNode n ∧
      n.label = "OrderStatus" ∧ n.IsWellShaped schema := by
  intro schema
  obtain ⟨m, made, seen⟩ := Outcome.exists_of_any (x := model schema true (.text "Order") .null)
    (p := fun m => m.properties.any fun part => part.properties.any fun shared =>
      shared.enums.any fun e => e.label == "OrderStatus") (by decide +kernel)
  simp only [List.any_eq_true, beq_iff_eq] at seen
  obtain ⟨part, mem, shared, inPart, e, inShared, named⟩ := seen
  have node : m.HasNode e := .ofProperty mem (.ofProperty inPart (.ofEnum inShared (.self e)))
  exact ⟨m, e, made, node, named, isWellShaped_of_model made node⟩

end Schema

end TypedClient
