import TypedClient.Proofs.Declaration.SharedProperties
import TypedClient.Proofs.Schema.EnumLabels
import TypedClient.Proofs.Schema.TypeLists

/-! Object schemas and their types, which have a member for each property and one for all further keys. -/

namespace TypedClient

/-- Only the truth value true is true. -/
theorem Value.isTrue_iff {v : Value} : v.isTrue = true ↔ v = .bool true := by
  cases v with
  | scalar s => cases s <;> simp [Value.isTrue]
  | _ => simp [Value.isTrue]

/-- An object type is no union, so null comes beside it. -/
theorem TypeExpr.nullable_object (members : List (Member TypeExpr)) (isNullable : Bool) :
    (object members).nullable isNullable
      = if isNullable then .union [object members, .null] else object members := by
  cases isNullable <;> rfl

namespace Model

variable {m other : Model}

/-- The type of a model depends on nothing but what it holds and whether it allows null. -/
theorem typeExpr_eq_of_sameBody (body : m.SameBody other) (null : m.isNullable = other.isNullable) :
    m.typeExpr = other.typeExpr := by
  obtain ⟨variant, type, properties, enum, -, link⟩ := body
  cases m
  cases other
  dsimp only at variant type properties enum link null
  simp only [typeExpr, variant, type, properties, enum, link, null]

end Model

namespace Schema

/-- The member of an object type for all keys that no other member is for. -/
def indexMember (type : TypeExpr) : Member TypeExpr :=
  { name := .text indexSignature, type := .union [type, .reference "undefined" []] }

/-- A schema of objects with the given properties, of which those with one of the given names are required. It is no
reference, no enum, no list with items and no composition. -/
structure DeclaresObject (members : Members) (entries : List (String × Value)) (required : List String) :
    Prop where
  noReference : members.get? "$ref" = none
  noEnum : members.get? "enum" = none
  noItems : members.get "type" = .text "array" → (members.get "items").truthy = false
  noAlternatives : ∀ keyword ∈ compositions.map Prod.fst, members.get? keyword = none
  declared : members.get "properties" = .map (entries.map fun entry => (.text entry.1, entry.2))
  some : entries ≠ []
  /-- A schema that does not say which properties are required requires none. -/
  asked : (members.get "required").orElse (.list []) = .list (required.map .text)

/-- What the schema of a property says of the member for it, apart from its type. -/
structure Tells (required : List String) (key : String) (parts : Members) (member : Member TypeExpr) :
    Prop where
  name : member.name = .text key
  isRequired : member.isRequired = true ↔ key ∈ required
  isReadOnly : member.isReadOnly = true ↔ parts.get "readOnly" = .bool true
  comment : ∃ line, commentText (parts.get "description").orNull = .ok line ∧
    member.comment = [line, if (parts.get "deprecated").isTrue then "@deprecated" else ""]

/-- The member that stands for a property. -/
inductive HasMember (required : List String) : String × Value → Member TypeExpr → Prop
  /-- A property has a member of its name, with the type of its schema. -/
  | named {key : String} {parts : Members} {model : Model} {member : Member TypeExpr}
      (apart : key ≠ indexSignature) (resolved : resolve (.text key) (.map parts) = .ok model)
      (typed : model.typeExpr = .ok member.type) (told : Tells required key parts member) :
    HasMember required (key, .map parts) member
  /-- A property with the name of the index signature is taken for one. -/
  | index {parts : Members} {model : Model} {type : TypeExpr}
      (resolved : resolve (.text indexSignature) (.map parts) = .ok model)
      (typed : model.typeExpr = .ok type) :
    HasMember required (indexSignature, .map parts) (indexMember type)

/-- The members behind those for the properties: one if the schema allows further properties, and none else. -/
inductive HasFurther (members : Members) : List (Member TypeExpr) → Prop
  | closed (falsy : (members.get "additionalProperties").truthy = false) : HasFurther members []
  | indexed {link : Model} {type : TypeExpr} (truthy : (members.get "additionalProperties").truthy = true)
      (resolved : additional resolve members = .ok link) (typed : link.typeExpr = .ok type) :
    HasFurther members [indexMember type]

variable {members : Members} {entries : List (String × Value)} {required : List String}

/-- A schema of objects with properties is read as such. -/
theorem DeclaresObject.form (object : DeclaresObject members entries required) :
    Form.of members = .interface := by
  have truthy : (members.get "properties").truthy = true := by
    rw [object.declared]
    simpa [Value.truthy] using object.some
  have declared : isObject members = true := by
    have given : members.has "properties" = true := by
      cases found : members.get? "properties" with
      | none => simp [Members.get, found, Value.truthy, Scalar.truthy] at truthy
      | some v => simp [Members.has, found]
    simp [isObject, given]
  -- Each form that is looked for before that of an object is ruled out by what the schema lacks.
  have noEnum : isEnumeration members = false := by
    simp [isEnumeration, Members.get, object.noEnum, listsEnumerable]
  have noList : (members.get "type" == .text "array" && (members.get "items").truthy) = false := by
    refine Bool.eq_false_iff.mpr fun list => ?_
    obtain ⟨array, items⟩ := Bool.and_eq_true_iff.mp list
    exact Bool.false_ne_true ((object.noItems (Value.beq_text.mp array)).symm.trans items)
  have single : composed? members = none := by
    refine List.findSome?_eq_none_iff.mpr fun entry mem => ?_
    have absent := object.noAlternatives entry.1 (List.mem_map_of_mem mem)
    simp [Members.get, absent, Value.truthy, Scalar.truthy]
  simp [Form.of, object.noReference, noEnum, Form.ofStructure, noList, single, declared, truthy]

/-- A model allows null if its schema says so, whatever else it says. -/
theorem isNullable_of_resolve {name : Value} {m : Model} (resolved : resolve name (.map members) = .ok m)
    (allowed : isNullable members = true) : m.isNullable = true := by
  have same : described name members = (described name members).allowingNull := by
    simp [Model.allowingNull, described, allowed]
  rw [resolve_eq, same, Form.model_allowingNull, Outcome.map_eq_ok] at resolved
  obtain ⟨bare, -, rfl⟩ := resolved
  rfl

/-- A property is what its schema is resolved to, with what the schema says of it as a property. -/
structure IsProperty (required : List Value) (key : Scalar) (parts : Members) (model property : Model) :
    Prop where
  body : property.SameBody model
  isNullable : property.isNullable = model.isNullable
  name : property.name = .scalar key
  isRequired : property.isRequired = (Value.scalar key).isIn required
  isReadOnly : property.isReadOnly = (parts.get "readOnly").isTrue
  description : property.description = (parts.get "description").orNull
  deprecated : property.deprecated = (parts.get "deprecated").isTrue

section Property

variable {asked : List Value} {key : Scalar} {schema : Value} {parts : Members} {model p : Model}

/-- The model of a property is that of its schema. -/
theorem exists_isProperty (made : property resolve asked key schema = .ok p) :
    ∃ parts model, schema = .map parts ∧ resolve (.scalar key) (.map parts) = .ok model ∧
      IsProperty asked key parts model p := by
  obtain ⟨bare, parts, rfl, part, rfl⟩ := property_eq_ok made
  obtain ⟨_, ref, same, known, referred⟩ | resolved := part
  · -- What the model of a reference says of itself, its schema is asked for as a property.
    cases same
    obtain ⟨type, found, rfl⟩ := reference_eq_ok.mp referred
    refine ⟨parts, { described (.scalar key) parts with variant := .reference, type := type.toTypeUse }, rfl, ?_,
      ⟨⟨rfl, rfl, rfl, rfl, rfl, rfl⟩, Bool.false_or _, rfl, rfl, rfl, rfl, rfl⟩⟩
    rw [resolve_eq, Form.of, known]
    exact reference_eq_ok.mpr ⟨type, found, rfl⟩
  · refine ⟨parts, bare, rfl, resolved, ⟨⟨rfl, rfl, rfl, rfl, rfl, rfl⟩, ?_, rfl, rfl, rfl, rfl, rfl⟩⟩
    cases allowed : isNullable parts with
    | false => exact Bool.or_false _
    | true => exact (Bool.or_true _).trans (isNullable_of_resolve resolved allowed).symm

/-- A property has a model if its schema has one. -/
theorem exists_property (resolved : resolve (.scalar key) (.map parts) = .ok model) (asked : List Value) :
    ∃ p, property resolve asked key (.map parts) = .ok p ∧ IsProperty asked key parts model p := by
  -- A property fails only where its schema does, be that a reference or not.
  have exist : ∃ p, property resolve asked key (.map parts) = .ok p := by
    cases known : parts.get? "$ref" with
    | some ref =>
      rw [resolve_eq, Form.of, known] at resolved
      obtain ⟨type, found, -⟩ := reference_eq_ok.mp resolved
      simp [property, Value.mentions, Members.has, Value.require, known, reference, found, Value.members]
    | none => simp [property, Value.mentions, Members.has, known, resolved, Value.members]
  obtain ⟨p, made⟩ := exist
  obtain ⟨_, _, same, found, is⟩ := exists_isProperty made
  cases same
  cases resolved.symm.trans found
  exact ⟨p, made, is⟩

/-- A property has the type of its schema. -/
theorem IsProperty.typeExpr_eq (is : IsProperty asked key parts model p) : p.typeExpr = model.typeExpr :=
  Model.typeExpr_eq_of_sameBody is.body is.isNullable

/-- The member for a property has the type that it is given, and what the schema says of the property. -/
theorem IsProperty.member_eq_ok {key : String} {type : TypeExpr} {member : Member TypeExpr}
    (is : IsProperty asked (.text key) parts model p) (listed : ∀ key, .text key ∈ asked ↔ key ∈ required)
    (apart : key ≠ indexSignature) :
    p.member type = .ok member ↔ member.type = type ∧ Tells required key parts member := by
  -- Each part of the member is read off one field of the model.
  have notIndex : ¬ (p.name == .text indexSignature) = true := by
    rw [is.name, Value.beq_text]
    exact fun same => apart (Scalar.text.inj (Value.scalar.inj same))
  have isRequired : p.isRequired = true ↔ key ∈ required := by
    rw [is.isRequired, ← listed]
    exact Value.isIn_text
  have isReadOnly : p.isReadOnly = true ↔ parts.get "readOnly" = .bool true := by
    rw [is.isReadOnly, Value.isTrue_iff]
  rw [Model.member, if_neg notIndex]
  simp only [Model.comment, is.description, is.deprecated, is.name, Outcome.bind_eq_ok, Outcome.pure_eq_ok]
  constructor
  · rintro ⟨_, ⟨line, written, rfl⟩, rfl⟩
    exact ⟨rfl, rfl, isRequired, isReadOnly, line, written, rfl⟩
  · rintro ⟨rfl, named, requires, readsOnly, line, written, comment⟩
    have sameRequired : p.isRequired = member.isRequired := Bool.eq_iff_iff.mpr (isRequired.trans requires.symm)
    have sameReadOnly : p.isReadOnly = member.isReadOnly :=
      Bool.eq_iff_iff.mpr (isReadOnly.trans readsOnly.symm)
    refine ⟨_, ⟨line, written, rfl⟩, ?_⟩
    cases member
    cases named
    cases comment
    rw [sameRequired, sameReadOnly]

end Property

/-- The member of a property with the name of the index signature is one for all further keys. -/
theorem member_of_index {p : Model} (named : p.name = .text indexSignature) (type : TypeExpr) :
    p.member type = .ok (indexMember type) := by
  rw [Model.member, if_pos (by rw [named]; exact Value.beq_text.mpr rfl), named]
  rfl

/-- The member for a property is what its schema says. -/
theorem hasMember_iff {asked : List Value} (listed : ∀ key, .text key ∈ asked ↔ key ∈ required) {key : String}
    {schema : Value} {member : Member TypeExpr} :
    (∃ p, property resolve asked (.text key) schema = .ok p ∧ p.signature = .ok member) ↔
      HasMember required (key, schema) member := by
  constructor
  · rintro ⟨p, made, signed⟩
    obtain ⟨parts, model, rfl, resolved, is⟩ := exists_isProperty made
    obtain ⟨type, typed, written⟩ := Outcome.bind_eq_ok.mp signed
    rw [is.typeExpr_eq] at typed
    -- The index signature tells nothing but its type.
    by_cases index : key = indexSignature
    · subst index
      cases (member_of_index is.name type).symm.trans written
      exact .index resolved typed
    · obtain ⟨rfl, told⟩ := (is.member_eq_ok listed index).mp written
      exact .named index resolved typed told
  · rintro (⟨apart, resolved, typed, told⟩ | ⟨resolved, typed⟩)
    · obtain ⟨p, made, is⟩ := exists_property resolved asked
      exact ⟨p, made, Outcome.bind_eq_ok.mpr
        ⟨_, is.typeExpr_eq.trans typed, (is.member_eq_ok listed apart).mpr ⟨rfl, told⟩⟩⟩
    · obtain ⟨p, made, is⟩ := exists_property resolved asked
      exact ⟨p, made, Outcome.bind_eq_ok.mpr ⟨_, is.typeExpr_eq.trans typed, member_of_index is.name _⟩⟩

/-- The names that are asked for are the required ones, each of them once. -/
theorem text_mem_distinct {key : String} :
    .text key ∈ Value.distinct (required.map .text) ↔ key ∈ required := by
  rw [← Value.isIn_text, isIn_distinct rfl, Value.isIn_text]
  simp

/-- The properties of a schema of objects are gone through in their order. -/
theorem DeclaresObject.properties_eq (object : DeclaresObject members entries required) :
    properties resolve members = entries.mapM fun entry =>
      property resolve (Value.distinct (required.map .text)) (.text entry.1) entry.2 := by
  have asked : ((members.get "required").orElse (.list [])).asKeys
      = .ok (Value.distinct (required.map .text)) := by
    rw [object.asked]
    have keys : (required.map Value.text).all Value.isKey = true := by simp [Value.isKey]
    simp [Value.asKeys, Value.elements, keys, Bind.bind, Except.bind, Pure.pure, Except.pure]
  have declared : ((members.get "properties").orElse (.map [])).members
      = .ok (entries.map fun entry => (.text entry.1, entry.2)) := by
    rw [object.declared, Value.orElse, if_pos (by simpa [Value.truthy] using object.some)]
    rfl
  rw [properties, asked, declared]
  exact List.mapM_map

/-- There is a member for all further keys exactly if the schema allows further properties. -/
theorem hasFurther_iff {further : List (Member TypeExpr)} :
    (∃ later, furtherModels resolve members = .ok later ∧ later.mapM Model.signature = .ok further) ↔
      HasFurther members further := by
  -- A model has the same type under the name of the index signature as under its own.
  have typeExpr_eq (link : Model) :
      Model.typeExpr { link with name := .text indexSignature } = link.typeExpr :=
    Model.typeExpr_eq_of_sameBody ⟨rfl, rfl, rfl, rfl, rfl, rfl⟩ rfl
  rw [furtherModels]
  constructor
  · rintro ⟨later, made, signed⟩
    split at made
    · next truthy =>
      obtain ⟨link, resolved, rfl⟩ := Outcome.map_eq_ok.mp made
      obtain _ | ⟨head, _ | _⟩ := Outcome.mapM_eq_ok.mp signed
      obtain ⟨type, typed, written⟩ := Outcome.bind_eq_ok.mp head
      cases (member_of_index rfl type).symm.trans written
      exact .indexed truthy resolved ((typeExpr_eq link).symm.trans typed)
    · next falsy =>
      cases made
      cases signed
      exact .closed (by simpa using falsy)
  · rintro (falsy | ⟨truthy, resolved, typed⟩)
    · exact ⟨[], by simp [falsy], rfl⟩
    · refine ⟨_, by rw [if_pos truthy, resolved]; rfl, Outcome.mapM_eq_ok.mpr (.cons ?_ .nil)⟩
      exact Outcome.bind_eq_ok.mpr ⟨_, (typeExpr_eq _).trans typed, member_of_index rfl _⟩

/-- There is an object for properties that are named by texts. -/
theorem exists_interface (common : Model) {models later : List Model}
    (found : properties resolve members = .ok models) (named : ∀ p ∈ models, ∃ key, p.name = .text key)
    (further : furtherModels resolve members = .ok later) : ∃ m, interface resolve members common = .ok m := by
  -- The name of a property can be part of that of an enum, and so has to be a text.
  have each : ∀ p ∈ models, ∃ enums, propertyEnums common.name p = .ok enums := by
    intro p mem
    obtain ⟨key, name⟩ := named p mem
    rw [propertyEnums, name]
    split <;> exact ⟨_, rfl⟩
  obtain ⟨enums, lifted⟩ := Outcome.exists_mapM each
  rw [furtherModels] at further
  cases allowed : (members.get "additionalProperties").truthy with
  | false => simp [interface, found, withProperties, lifted, allowed]
  | true =>
    rw [if_pos allowed] at further
    obtain ⟨link, resolved, -⟩ := Outcome.map_eq_ok.mp further
    simp [interface, found, withProperties, lifted, allowed, resolved]

/-- A named schema stands for the type that it is resolved to, whether it is declared or not. -/
theorem exists_model_iff {name default : Value} {isDefinition : Bool} {type : TypeExpr} :
    (∃ m, model (.map members) isDefinition name default = .ok m ∧ m.typeExpr = .ok type) ↔
      ∃ m, resolve name (.map members) = .ok m ∧ m.typeExpr = .ok type := by
  have typeExpr_eq (m : Model) (default : Value) :
      Model.typeExpr { m with isDefinition, default } = m.typeExpr :=
    Model.typeExpr_eq_of_sameBody ⟨rfl, rfl, rfl, rfl, rfl, rfl⟩ rfl
  simp [model, Value.members, typeExpr_eq]

/-- The type of an object is one of the members for its properties and for its further keys. -/
theorem DeclaresObject.exists_resolve_iff (object : DeclaresObject members entries required) {name : Value}
    {type : TypeExpr} :
    (∃ m, resolve name (.map members) = .ok m ∧ m.typeExpr = .ok type) ↔
      ∃ models later, properties resolve members = .ok models ∧ furtherModels resolve members = .ok later ∧
        ∃ all, (models ++ later).mapM Model.signature = .ok all ∧
          type = (TypeExpr.object all).nullable (isNullable members) := by
  rw [resolve_eq, object.form, Form.model]
  have given : (members.get "properties").truthy = true := Form.truthy_of_interface object.form
  have some {models later : List Model} (found : properties resolve members = .ok models) :
      models ++ later ≠ [] :=
    List.append_ne_nil_of_left_ne_nil (properties_ne_nil found given) later
  constructor
  · rintro ⟨m, made, typed⟩
    obtain ⟨models, later, found, further, kind, held, null⟩ := properties_of_interface made rfl
    obtain ⟨all, signed, same⟩ := Model.members_of_typeExpr kind (held ▸ some found) typed
    rw [Model.members_eq, held] at signed
    exact ⟨models, later, found, further, all, signed, same.trans (congrArg _ null)⟩
  · rintro ⟨models, later, found, further, all, signed, rfl⟩
    have named : ∀ p ∈ models, ∃ key, p.name = .text key := by
      -- Each property has the key that it is declared under as its name.
      intro p mem
      rw [object.properties_eq] at found
      obtain ⟨entry, -, made⟩ := Outcome.exists_item found mem
      obtain ⟨_, _, -, -, is⟩ := exists_isProperty made
      exact ⟨entry.1, is.name⟩
    obtain ⟨m, made⟩ := exists_interface (described name members) found named further
    obtain ⟨_, _, same, sameLater, kind, held, null⟩ := properties_of_interface made rfl
    cases found.symm.trans same
    cases further.symm.trans sameLater
    refine ⟨m, made, ?_⟩
    rw [Model.typeExpr_of_interface kind (held ▸ some found) (held ▸ signed), null]
    rfl

/-- A schema of objects with properties stands for a type exactly if each property and the further members do, and
then it is that of objects with one member for each property, in their order, and one for all further keys behind
them exactly if the schema allows further properties, in a union with null exactly if the schema allows null. -/
theorem typeExpr_object_iff (object : DeclaresObject members entries required) {name default : Value}
    {isDefinition : Bool} {type : TypeExpr} :
    (∃ m, model (.map members) isDefinition name default = .ok m ∧ m.typeExpr = .ok type) ↔
      ∃ own further, List.Forall₂ (HasMember required) entries own ∧ HasFurther members further ∧
        type = if isNullable members then .union [.object (own ++ further), .null]
          else .object (own ++ further) := by
  have member_iff (entry : String × Value) (member : Member TypeExpr) :
      (∃ p, property resolve (Value.distinct (required.map .text)) (.text entry.1) entry.2 = .ok p ∧
        p.signature = .ok member) ↔ HasMember required entry member :=
    hasMember_iff fun key => text_mem_distinct
  rw [exists_model_iff, object.exists_resolve_iff, object.properties_eq]
  constructor
  · rintro ⟨models, later, found, further, all, signed, rfl⟩
    simp only [List.mapM_append, Outcome.bind_eq_ok, Outcome.pure_eq_ok] at signed
    obtain ⟨own, ownSigned, rest, restSigned, rfl⟩ := signed
    have each := Outcome.related_of_mapM (Outcome.mapM_eq_ok.mp found) ownSigned
    exact ⟨own, rest, each.imp fun entry member => (member_iff entry member).mp,
      hasFurther_iff.mp ⟨later, further, restSigned⟩, TypeExpr.nullable_object _ _⟩
  · rintro ⟨own, rest, each, further, rfl⟩
    obtain ⟨models, found, ownSigned⟩ :=
      Outcome.exists_between.mpr (each.imp fun entry member => (member_iff entry member).mpr)
    obtain ⟨later, further, restSigned⟩ := hasFurther_iff.mpr further
    refine ⟨models, later, Outcome.mapM_eq_ok.mpr found, further, own ++ rest, ?_,
      (TypeExpr.nullable_object _ _).symm⟩
    simp [List.mapM_append, Outcome.mapM_eq_ok.mpr ownSigned, restSigned]

/-- An object or null with a property of each of several kinds, and with further members. -/
theorem typeExpr_object_iff_open :
    let entries : List (String × Value) := [
      ("id", .map [(.text "type", "integer"), (.text "readOnly", .bool true)]),
      ("owner", .map [(.text "$ref", "#/definitions/User"), (.text "nullable", .bool true)]),
      ("state", .map [(.text "enum", .list ["open", "closed"]), (.text "deprecated", .bool true)]),
      ("tags", .map [(.text "type", "array"), (.text "items", .map [(.text "type", "string")])])]
    let members : Members := [
      (.text "type", .list ["object", "null"]), (.text "required", .list ["tags", "id"]),
      (.text "properties", .map (entries.map fun entry => (.text entry.1, entry.2))),
      (.text "additionalProperties", .map [(.text "type", "number")])]
    DeclaresObject members entries ["tags", "id"] ∧ ∃ m own further,
      model (.map members) true (.text "Issue") .null = .ok m ∧
      m.typeExpr = .ok (.union [.object (own ++ further), .null]) ∧
      List.Forall₂ (HasMember ["tags", "id"]) entries own ∧ HasFurther members further ∧
      further.length = 1 := by
  intro entries members
  have object : DeclaresObject members entries ["tags", "id"] := {
    noReference := rfl
    noEnum := rfl
    noItems := fun _ => rfl
    noAlternatives := by
      simp only [compositions, List.map_cons, List.map_nil, List.forall_mem_cons]
      exact ⟨rfl, rfl, rfl, List.forall_mem_nil _⟩
    declared := rfl
    some := List.cons_ne_nil _ _
    asked := rfl }
  obtain ⟨type, found, -⟩ := Outcome.exists_of_any
    (x := model (.map members) true (.text "Issue") .null >>= Model.typeExpr) (p := fun _ => true)
    (by decide +kernel)
  obtain ⟨m, made, typed⟩ := Outcome.bind_eq_ok.mp found
  obtain ⟨own, further, each, behind, rfl⟩ := (typeExpr_object_iff object).mp ⟨m, made, typed⟩
  refine ⟨object, m, own, further, made, typed, each, behind, ?_⟩
  -- The schema says of what type all other members are.
  cases behind with
  | closed falsy => cases falsy
  | indexed => rfl

end Schema

end TypedClient
