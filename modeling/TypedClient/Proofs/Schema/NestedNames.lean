import TypedClient.Proofs.Name.Identifier
import TypedClient.Proofs.Schema.NestedEnums
import TypedClient.Proofs.Schema.Tokens

/-! The names of the enums that are declared beside a schema: each is put together where the enum is found. -/

namespace TypedClient.Schema

/-- What an enum is inside of the schema that it is named after. -/
inductive Part
  /-- The property with the key. -/
  | property (key : String)
  /-- The one of the alternatives that is the `count`-th enum among them. -/
  | alternative (count : Nat)

/-- Where an enum comes from that is declared beside a schema. -/
structure Origin where
  /-- The name of the schema that it is a part of: one that is declared, or the key of a property. -/
  owner : Value
  named : owner.truthy = true
  part : Part

/-- What stands behind the name of the owner in the name of an enum. -/
def Part.suffix : Part → String
  | property key => pascalCase key
  | alternative count => "Enum" ++ if count == 1 then "" else toString count

/-- The name of an enum. -/
def Origin.name (origin : Origin) : String :=
  origin.owner.display ++ origin.part.suffix

/-- The name of an enum is a legal one: its owner has the name of a variable, but for reserved words, and the key of a
property adds nothing to it that has no place in one. -/
structure Origin.Fits (origin : Origin) : Prop where
  owner : TypeScript.isIdentifierName origin.owner.display = true
  key : ∀ key, origin.part = .property key →
    ∀ c ∈ key.toList, Name.isSeparator c = true ∨ Text.isIdentifierPart c = true
  /-- A key of separators alone adds nothing, so the name is that of the owner. -/
  bare : ∀ key, origin.part = .property key → (∀ c ∈ key.toList, Name.isSeparator c = true) →
    origin.owner.display ∉ Name.reservedWords

/-- Whether a schema is read as an enum. -/
def isEnumSchema : Value → Bool
  | .map members =>
    match Form.of members with
    | .enumeration => true
    | _ => false
  | _ => false

/-- The origin of an enum that is a part of a schema, if this has a name. -/
def originOf (owner : Value) (part : Part) : List Origin :=
  if named : owner.truthy = true then [{ owner, named, part }] else []

/-- The origin of an enum that is a property with the key, which has to be a text to be part of a name. -/
def originOfKey (owner : Value) : Scalar → List Origin
  | .text key => originOf owner (.property key)
  | _ => []

/-- The origins of the enums that a property brings with it, where `inner` gives those inside it. -/
def originsOfProperty (inner : Value → Value → List Origin) (owner : Value) (entry : Scalar × Value) :
    List Origin :=
  inner (.scalar entry.1) entry.2 ++ if isEnumSchema entry.2 then originOfKey owner entry.1 else []

/-- The origins of the enums that alternatives bring with them, where `count` enums among them came before. -/
def originsOfAlternatives (inner : Value → Value → List Origin) (owner : Value) (count : Nat) :
    List Value → List Origin
  | [] => []
  | branch :: rest =>
    -- Alternatives have no name, so nothing right inside one is named after it.
    inner (.text "") branch ++
      if isEnumSchema branch && owner.truthy then
        originOf owner (.alternative (count + 1)) ++ originsOfAlternatives inner owner (count + 1) rest
      else originsOfAlternatives inner owner count rest

/-- The origins of the enums inside a schema with the given members, where `inner` gives those of its parts. -/
def originsOfMembers (inner : Value → Value → List Origin) (name : Value) (members : Members) :
    List Origin :=
  let ofProperties := (declaredProperties members).flatMap (originsOfProperty inner name)
  match Form.of members with
  | .composition _ alternatives =>
    originsOfAlternatives inner name 0 (contributing alternatives) ++ ofProperties
  | .interface => ofProperties
  -- What is inside the items of a list or the values of a dictionary is not declared.
  | _ => []

/-- The origins of the enums that are declared beside a schema of the given name, in their order. -/
def origins (name schema : Value) : List Origin :=
  match schema with
  | .map members =>
    originsOfMembers
      (fun name part => if part.size < (Value.map members).size then origins name part else [])
      name members
  | _ => []
termination_by schema.size

variable {inner : Resolver} {members : Members} {m : Model} {name : Value}

/-- Only what the alternatives have for origins makes a difference. -/
theorem originsOfAlternatives_congr {f g : Value → Value → List Origin} {owner : Value} {count : Nat}
    {alternatives : List Value} (same : ∀ branch ∈ alternatives, f (.text "") branch = g (.text "") branch) :
    originsOfAlternatives f owner count alternatives = originsOfAlternatives g owner count alternatives := by
  induction alternatives generalizing count with
  | nil => rfl
  | cons branch rest ih =>
    obtain ⟨first, others⟩ := List.forall_mem_cons.mp same
    rw [originsOfAlternatives, originsOfAlternatives, first, ih others, ih others]

/-- Only what the parts of a schema have for origins makes a difference. -/
theorem originsOfMembers_congr {f g : Value → Value → List Origin}
    (same : ∀ name part : Value, part.size < (Value.map members).size → f name part = g name part) :
    originsOfMembers f name members = originsOfMembers g name members := by
  -- Origins come from properties and from alternatives, both of which are smaller than the schema.
  have ofProperties : (declaredProperties members).flatMap (originsOfProperty f name)
      = (declaredProperties members).flatMap (originsOfProperty g name) :=
    List.flatMap_congr fun entry mem => by
      rw [originsOfProperty, originsOfProperty, same _ entry.2 (size_lt_of_mem_declaredProperties mem)]
  simp only [originsOfMembers, ofProperties]
  cases form : Form.of members with
  | composition kind alternatives =>
    obtain ⟨keyword, -, rfl, truthy⟩ := Form.eq_of_composition form
    dsimp only
    rw [originsOfAlternatives_congr fun branch mem => same _ branch <|
      Nat.lt_of_le_of_lt (size_le_of_mem_contributing mem) (Value.size_get_lt truthy)]
  | _ => rfl

/-- The origins of the enums of a schema are made up of those of its parts. -/
theorem origins_map (name : Value) (members : Members) :
    origins name (.map members) = originsOfMembers origins name members := by
  rw [origins]
  exact originsOfMembers_congr fun name part smaller => if_pos smaller

/-- A resolved schema is an enum exactly if it is read as one. -/
theorem isEnum_of_resolve {schema : Value} (resolved : resolve name schema = .ok m) :
    m.isEnum = isEnumSchema schema := by
  obtain ⟨members, inner, rfl, made, -⟩ := resolve_eq_ok resolved
  have kind := (variant_and_name_of_model rfl made).1
  rw [Model.isEnum, kind, isEnumSchema]
  cases Form.of members <;> rfl

/-- The names of enums are those that their origins give them. -/
def NamedBy (origins : List Origin) (enums : List Model) : Prop :=
  enums.map Model.name = origins.map fun origin => .text origin.name

/-- The names of enums after others are given by the origins after those of the others. -/
theorem NamedBy.append {first second : List Origin} {enums more : List Model} (named : NamedBy first enums)
    (others : NamedBy second more) : NamedBy (first ++ second) (enums ++ more) := by
  rw [NamedBy, List.map_append, List.map_append, named, others]

/-- A part of a schema brings the enums of its origins, and is one itself exactly if it is read as one. -/
theorem namedBy_of_partModel {part : Value} (resolved : PartModel inner name part m)
    (faithful : ∀ {name part m}, inner name part = .ok m → resolve name part = .ok m)
    (known : ∀ {name part m}, inner name part = .ok m → NamedBy (origins name part) m.enums) :
    NamedBy (origins name part) m.enums ∧ m.isEnum = isEnumSchema part := by
  obtain ⟨members, ref, rfl, found, made⟩ | made := resolved
  · -- A reference is no enum and brings none with it.
    obtain ⟨type, -, rfl⟩ := reference_eq_ok.mp made
    have form : Form.of members = .reference ref := by rw [Form.of, found]
    rw [origins_map, originsOfMembers, isEnumSchema, form]
    exact ⟨rfl, rfl⟩
  · exact ⟨known made, isEnum_of_resolve (faithful made)⟩

/-- What items bring one after the other has the names that the origins of all items give. -/
theorem NamedBy.flatten {α : Type} {listed : α → List Origin} {items : List α} {each : List (List Model)}
    (named : List.Forall₂ (fun item enums => NamedBy (listed item) enums) items each) :
    NamedBy (items.flatMap listed) each.flatten := by
  induction named with
  | nil => rfl
  | cons head _ ih => exact head.append ih

/-- An enum that is a property of an owner with a name is named after both. -/
theorem namedBy_of_propertyEnums {owner : Value} {property : Model} {key : Scalar} {enums : List Model}
    {inside : List Origin} (named : property.name = .scalar key) (within : NamedBy inside property.enums)
    (lifted : propertyEnums owner property = .ok enums) :
    NamedBy (inside ++ if property.isEnum then originOfKey owner key else []) enums := by
  simp only [propertyEnums, Model.copies_eq, Model.copy_eq, named] at lifted
  cases isEnum : property.isEnum with
  | false =>
    rw [isEnum] at lifted
    rw [← Outcome.pure_eq_ok.mp lifted]
    simpa [NamedBy] using within
  | true =>
    cases truthy : owner.truthy with
    | false =>
      rw [isEnum, truthy] at lifted
      rw [← Outcome.pure_eq_ok.mp lifted]
      cases key <;> simpa [NamedBy, originOfKey, originOf, truthy] using within
    | true =>
      -- Only a key that is a text can be put into a name.
      rw [isEnum, truthy] at lifted
      obtain ⟨text, editable, lifted⟩ := Outcome.bind_eq_ok.mp lifted
      rw [← Outcome.pure_eq_ok.mp lifted]
      cases key with
      | text key =>
        cases editable
        refine within.append ?_
        simp [NamedBy, originOfKey, originOf, truthy, Origin.name, Part.suffix]
      | _ => cases editable

/-- A property brings the enums of its origins to its owner. -/
theorem namedBy_of_property {owner : Value} {required : List Value} {entry : Scalar × Value}
    {enums : List Model} (made : property inner required entry.1 entry.2 = .ok m)
    (lifted : propertyEnums owner m = .ok enums)
    (faithful : ∀ {name part m}, inner name part = .ok m → resolve name part = .ok m)
    (known : ∀ {name part m}, inner name part = .ok m → NamedBy (origins name part) m.enums) :
    NamedBy (originsOfProperty origins owner entry) enums := by
  obtain ⟨model, parts, -, resolved, rfl⟩ := property_eq_ok made
  obtain ⟨inside, isEnum⟩ := namedBy_of_partModel resolved faithful known
  rw [originsOfProperty, ← isEnum]
  -- What is said beside the type of a property does not change what it is or brings.
  have brought : NamedBy _ enums := namedBy_of_propertyEnums (by rfl) (by exact inside) lifted
  exact brought

/-- The properties of a schema bring the enums of their origins to their owner. -/
theorem namedBy_of_properties {owner : Value} {models : List Model} {enums : List (List Model)}
    (made : properties inner members = .ok models) (lifted : models.mapM (propertyEnums owner) = .ok enums)
    (faithful : ∀ {name part m}, inner name part = .ok m → resolve name part = .ok m)
    (known : ∀ {name part m}, inner name part = .ok m → NamedBy (origins name part) m.enums) :
    NamedBy ((declaredProperties members).flatMap (originsOfProperty origins owner)) enums.flatten := by
  obtain ⟨required, each⟩ := properties_eq_ok made
  refine .flatten ((Outcome.related_of_mapM each lifted).imp fun entry brought found => ?_)
  obtain ⟨model, made, lifted⟩ := found
  exact namedBy_of_property made lifted faithful known

/-- Alternatives bring the enums of their origins to their owner. -/
theorem namedBy_of_branchEnums {owner : Value} {count : Nat} {parts : List Value} {models : List Model}
    (each : List.Forall₂ (fun part model => inner (.text "") part = .ok model) parts models)
    (faithful : ∀ {name part m}, inner name part = .ok m → resolve name part = .ok m)
    (known : ∀ {name part m}, inner name part = .ok m → NamedBy (origins name part) m.enums) :
    NamedBy (originsOfAlternatives origins owner count parts) (branchEnums owner count models) := by
  -- The enums that came before are only counted, so their number is left open.
  induction each generalizing count with
  | nil => rfl
  | @cons part model parts models made _ ih =>
    have inside := known made
    rw [originsOfAlternatives, branchEnums, Model.copies_eq, Model.copy_eq,
      ← isEnum_of_resolve (faithful made)]
    split
    · next isNew =>
      have truthy : owner.truthy = true := (Bool.and_eq_true_iff.mp isNew).2
      have own : NamedBy (originOf owner (.alternative (count + 1)))
          [{ model with name := branchEnumName owner (count + 1) }] := by
        simp [NamedBy, originOf, truthy, Origin.name, Part.suffix, branchEnumName, String.append_assoc]
      exact inside.append (own.append ih)
    · exact inside.append ih

/-- The enums that are declared beside a schema have the names of their origins. -/
theorem namedBy_of_resolve {schema : Value} (resolved : resolve name schema = .ok m) :
    NamedBy (origins name schema) m.enums := by
  refine resolve_induction (P := fun name schema m => NamedBy (origins name schema) m.enums) ?_ resolved
  intro name members inner m within made
  have faithful {name part m} (found : inner name part = .ok m) := (within found).1
  have known {name part m} (found : inner name part = .ok m) := (within found).2
  rw [origins_map, originsOfMembers]
  cases form : Form.of members with
  | interface =>
    rw [form] at made
    obtain ⟨models, own, found, ownMade, beside⟩ := interface_eq_ok made
    obtain ⟨enums, lifted, rfl⟩ := withProperties_eq_ok.mp ownMade
    have ofProperties := namedBy_of_properties found lifted faithful known
    obtain ⟨-, rfl⟩ | ⟨-, index, -, rfl⟩ := beside <;> exact ofProperties
  | composition kind alternatives =>
    rw [form] at made
    obtain ⟨parts, models, hasNull, listed, found, beside⟩ := composition_eq_ok made
    have each := (branches_eq_ok faithful found).1
    have ofAlternatives : NamedBy (originsOfAlternatives origins name 0 (contributing alternatives))
        (branchEnums name 0 models) := by
      rw [contributing, listed]
      exact namedBy_of_branchEnums each faithful known
    obtain ⟨absent, rfl⟩ | ⟨-, declared, shared, declaredMade, sharedMade, rfl⟩ := beside
    · -- Without properties beside the alternatives, these are all.
      simp only [declaredProperties_of_falsy absent, List.flatMap_nil, List.append_nil]
      exact ofAlternatives
    · obtain ⟨enums, lifted, rfl⟩ := withProperties_eq_ok.mp sharedMade
      rw [enums_withShared]
      exact ofAlternatives.append (namedBy_of_properties declaredMade lifted faithful known)
  | _ =>
    -- Only objects and compositions have enums inside them.
    have none : m.enums = [] := by
      by_contra nested
      obtain other | ⟨_, _, other⟩ := variant_of_enums_ne_nil rfl made nested <;> cases form.symm.trans other
    rw [NamedBy, none]
    rfl

/-- What alternatives put behind the name of their owner is part of a name. -/
theorem isIdentifierPart_of_mem_suffix {count : Nat} {c : Char}
    (mem : c ∈ (Part.alternative count).suffix.toList) : Text.isIdentifierPart c = true := by
  rw [Part.suffix, String.toList_append] at mem
  rcases List.mem_append.mp mem with word | number
  · have letters : "Enum".toList.all Text.isIdentifierPart = true := by decide
    exact List.all_eq_true.mp letters c word
  · split at number
    · cases number
    · have listed : c ∈ Nat.toDigits 10 count := by simpa using number
      have digit : c.isDigit = true := Nat.isDigit_of_mem_toDigits (by decide) (by decide) listed
      exact (TypeScript.Spells.facts_of_isDigit digit).1

/-- A name with the word for an enum among alternatives behind it is legal exactly if it is one but for reserved
words. -/
theorem isLegalName_alternative {owner : String} (some : owner ≠ "") (count : Nat) :
    Name.IsLegalName (owner ++ (Part.alternative count).suffix) ↔
      TypeScript.isIdentifierName owner = true := by
  have identifier : TypeScript.isIdentifierName (owner ++ (Part.alternative count).suffix) = true ↔
      TypeScript.isIdentifierName owner = true := by
    rw [Name.isIdentifierName_append some]
    exact and_iff_left fun c => isIdentifierPart_of_mem_suffix
  -- The word begins with a capital, so no reserved word comes of it.
  have free : owner ++ (Part.alternative count).suffix ∉ Name.reservedWords :=
    Name.not_mem_reservedWords (c := 'E') (by simp [Part.suffix]) (by decide)
  rw [← identifier]
  exact ⟨Name.IsLegalName.identifier, fun legal => ⟨legal, free⟩⟩

/-- The name of an enum is legal exactly if its origin fits. -/
theorem isLegalName_iff_fits (origin : Origin) : Name.IsLegalName origin.name ↔ origin.Fits := by
  have some := Value.display_ne_empty origin.named
  obtain ⟨owner, named, part⟩ := origin
  rw [Origin.name]
  -- A property puts its key in camel case behind the name of its owner, an alternative a fixed word.
  cases part with
  | property key =>
    rw [Part.suffix, Name.isLegalName_append_pascalCase some]
    constructor
    · rintro ⟨own, parts, bare⟩
      exact ⟨own, by rintro _ ⟨⟩; exact parts, by rintro _ ⟨⟩; exact bare⟩
    · exact fun fits => ⟨fits.owner, fits.key key rfl, fits.bare key rfl⟩
  | alternative count =>
    rw [isLegalName_alternative some]
    exact ⟨fun own => ⟨own, by rintro _ ⟨⟩, by rintro _ ⟨⟩⟩, Origin.Fits.owner⟩

end TypedClient.Schema
