import TypedClient.Proofs.Declaration.TypeExpr

/-! Null on its way from the schema of a property to the type of the member that stands for it. -/

namespace TypedClient.Schema

/-- The members of a schema allow null, in one of the ways in which a schema can. -/
inductive AllowsNull (members : Members) : Prop
  /-- A flag says so. -/
  | flag (given : members.get? "nullable" = some (.bool true))
  /-- The flag of the older documents says so. -/
  | extension (given : members.get? "x-nullable" = some (.bool true))
  /-- Null is one of several types. -/
  | listed {types : List Value} (given : members.get? "type" = some (.list types))
      (null : .text "null" ∈ types)
  /-- Null is one of the values of an enum, which has some value that can be one of an enum. -/
  | chosen {values : List Value} {v : Value} (bare : members.get? "$ref" = none)
      (typed : members.get? "type" ≠ some (.text "boolean"))
      (given : members.get? "enum" = some (.list values))
      (mem : v ∈ values) (enumerable : isEnumerable v = true) (null : .null ∈ values)
  /-- Null is one of the alternatives that the schema is composed of. -/
  | alternative {kind : Composition} {alternatives branch : Value} {parts : List Value}
      (form : Form.of members = .composition kind alternatives)
      (given : alternatives.elements = .ok parts) (mem : branch ∈ parts)
      (null : isNullTyped branch = true)

variable {inner : Resolver} {members : Members} {common m : Model}

/-- A flag, or a list of types with null, is seen wherever the members of the schema are looked at. -/
theorem isNullable_of_flag (said : members.get? "nullable" = some (.bool true) ∨
      members.get? "x-nullable" = some (.bool true) ∨
      ∃ types, members.get? "type" = some (.list types) ∧ .text "null" ∈ types) :
    isNullable members = true := by
  rw [isNullable, Bool.or_eq_true, Bool.or_eq_true]
  obtain given | given | ⟨types, given, null⟩ := said
  · exact .inl (.inl (by rw [Members.get, given]; rfl))
  · exact .inl (.inr (by rw [Members.get, given]; rfl))
  · refine .inr ?_
    rw [Members.get, given]
    exact Value.isIn_text.mpr null

/-- A schema with a value that can be one of an enum is read as an enum, if it is neither a reference
nor of truth values. -/
theorem Form.of_eq_enumeration {values : List Value} {v : Value} (bare : members.get? "$ref" = none)
    (typed : members.get? "type" ≠ some (.text "boolean"))
    (given : members.get? "enum" = some (.list values)) (mem : v ∈ values)
    (enumerable : isEnumerable v = true) : Form.of members = .enumeration := by
  have noFlag : (members.get "type" == .text "boolean") = false := by
    rw [Bool.eq_false_iff, ne_eq, Value.beq_text, Members.get]
    -- A schema without a type reads as one of the type null, which is no text.
    cases found : members.get? "type" with
    | none => simp
    | some type => simpa [found] using typed
  have some : listsEnumerable (members.get "enum") = true := by
    rw [Members.get, given]
    exact List.any_eq_true.mpr ⟨v, mem, enumerable⟩
  simp [Form.of, bare, isEnumeration, noFlag, some]

/-- A composition is no reference. -/
theorem Form.bare_of_composition {kind : Composition} {alternatives : Value}
    (form : Form.of members = .composition kind alternatives) : members.get? "$ref" = none := by
  cases found : members.get? "$ref" with
  | none => rfl
  | some ref =>
    -- References are told before anything else is looked at.
    simp [Form.of, found] at form

/-- A composition allows null if one of its alternatives does nothing else, whatever is added to it. -/
theorem isNullable_of_composition {kind : Composition} {alternatives branch : Value}
    {parts : List Value}
    (faithful : ∀ {name part m}, inner name part = .ok m → resolve name part = .ok m)
    (made : composition inner kind alternatives members common = .ok m)
    (given : alternatives.elements = .ok parts) (mem : branch ∈ parts)
    (null : isNullTyped branch = true) : m.isNullable = true := by
  obtain ⟨_, models, hasNull, listed, found, beside⟩ := composition_eq_ok made
  cases given.symm.trans listed
  -- The alternative itself leaves no model behind, only the note that there was one.
  have noted : hasNull = true :=
    (branches_eq_ok faithful found).2.trans (List.any_eq_true.mpr ⟨branch, mem, null⟩)
  obtain ⟨-, rfl⟩ | ⟨-, declared, shared, -, -, rfl⟩ := beside
  · simp [composedOf, noted]
  · simp [withShared, composedOf, Model.importing, noted]

/-- A schema that is no reference is resolved as a part like any other. -/
theorem model_of_partModel {name : Value}
    (faithful : ∀ {name part m}, inner name part = .ok m → resolve name part = .ok m)
    (resolved : PartModel inner name (.map members) m) (bare : members.get? "$ref" = none) :
    ∃ within : Resolver, (∀ {name part m}, within name part = .ok m → resolve name part = .ok m) ∧
      (Form.of members).model within members (described name members) = .ok m := by
  obtain ⟨_, ref, same, known, -⟩ | found := resolved
  · -- A part that is taken for a reference would have one.
    cases same
    cases bare.symm.trans known
  · obtain ⟨_, within, same, made, smaller⟩ := resolve_eq_ok (faithful found)
    cases same
    exact ⟨within, fun inside => (smaller inside).2, made⟩

/-- The model of a property allows null if its schema does. -/
theorem isNullable_of_property {required : List Value} {key : Scalar}
    (faithful : ∀ {name part m}, inner name part = .ok m → resolve name part = .ok m)
    (made : property inner required key (.map members) = .ok m) (allowed : AllowsNull members) :
    m.isNullable = true := by
  obtain ⟨model, _, same, resolved, rfl⟩ := property_eq_ok made
  cases same
  -- What stands in the schema itself counts beside a reference too, the rest is up to its model.
  suffices either : model.isNullable = true ∨ isNullable members = true by simpa using either
  cases allowed with
  | flag given => exact .inr (isNullable_of_flag (.inl given))
  | extension given => exact .inr (isNullable_of_flag (.inr (.inl given)))
  | listed given null => exact .inr (isNullable_of_flag (.inr (.inr ⟨_, given, null⟩)))
  | chosen bare typed given mem enumerable null =>
    refine .inl ?_
    -- The schema is read as an enum, whose model asks for null among all listed values.
    obtain ⟨within, -, made⟩ := model_of_partModel faithful resolved bare
    rw [Form.of_eq_enumeration bare typed given mem enumerable] at made
    obtain ⟨enum, -, rfl⟩ := Outcome.map_eq_ok.mp made
    simp [Form.enumerationOf, Members.get, given, Value.isIn_null null]
  | alternative form given mem null =>
    refine .inl ?_
    obtain ⟨within, faithful, made⟩ := model_of_partModel faithful resolved (Form.bare_of_composition form)
    rw [form] at made
    exact isNullable_of_composition faithful made given mem null

/-- A property stands for a type throughout if all that is said about it can be written. -/
theorem isTypable_of_property {required : List Value} {key : Scalar} {schema : Value}
    (faithful : ∀ {name part m}, inner name part = .ok m → resolve name part = .ok m)
    (made : property inner required key schema = .ok m)
    (described : ∀ n, m.HasNode n → n.IsDescribed) : m.IsTypable := by
  obtain ⟨model, parts, -, resolved, same⟩ := property_eq_ok made
  have shaped := allShaped_of_partModel resolved fun found => allShaped_of_resolve (faithful found)
  -- What is said beside the type makes no difference to what the model holds.
  have body : m.SameBody model := by
    rw [same]
    exact ⟨rfl, rfl, rfl, rfl, rfl, rfl⟩
  refine fun n node => ⟨described n node, fun kind untyped => ?_⟩
  -- A node that is made of a schema fits its kind, and none fits one that stands for no type.
  have fits := (shaped.of_sameBody body n node).fits
  rwa [Model.FitsKind, untyped] at fits

/-- A property as it is declared, and its model: null is not lost on the way to the member that stands
for it. -/
structure KeepsNull (declared : Scalar × Value) (property : Model) : Prop where
  named : property.name = .scalar declared.1
  /-- Only a description that cannot be written keeps the property from having a member. -/
  written : (∀ n, property.HasNode n → n.IsDescribed) → ∃ member, property.signature = .ok member
  /-- If the schema allows null, the type of the member admits it. -/
  kept : ∀ members member, declared.2 = .map members → AllowsNull members →
    declared.1 ≠ .text indexSignature → property.signature = .ok member → member.type.AdmitsNull

/-- No property loses null between its schema and the member that stands for it. -/
theorem keepsNull_of_property {required : List Value} {declared : Scalar × Value}
    (faithful : ∀ {name part m}, inner name part = .ok m → resolve name part = .ok m)
    (made : property inner required declared.1 declared.2 = .ok m) : KeepsNull declared m := by
  have named : m.name = .scalar declared.1 := by
    obtain ⟨model, parts, -, -, rfl⟩ := property_eq_ok made
    rfl
  refine ⟨named, fun described => ?_, ?_⟩
  · exact Model.exists_signature (isTypable_of_property faithful made described)
  · intro members member given allowed other written
    rw [given] at made
    -- The member is made of the type of the property, which admits null as its model allows it.
    obtain ⟨type, typed, found⟩ := Outcome.bind_eq_ok.mp written
    -- Only an index signature has another type than its property.
    have notIndex : m.name ≠ .text indexSignature := by
      rw [named]
      exact fun same => other (Value.scalar.inj same)
    rw [(Model.type_of_member notIndex found).2]
    exact Model.admitsNull_of_typeExpr (isNullable_of_property faithful made allowed) typed

/-- Each declared property of a schema has its model, in their order, and none of them loses null. -/
theorem keepsNull_of_properties {models : List Model} (made : properties resolve members = .ok models) :
    List.Forall₂ KeepsNull (declaredProperties members) models := by
  obtain ⟨required, each⟩ := properties_eq_ok made
  exact each.imp fun declared model found => keepsNull_of_property id found

/-- Every way in which a property can allow null, one of them beside a reference. -/
theorem keepsNull_of_properties_each_way :
    let entries : Members := [
      (.text "parent", .map [(.text "$ref", "#/definitions/Node"), (.text "nullable", .bool true)]),
      (.text "tags", .map [(.text "type", "array"), (.text "items", .map [(.text "type", "string")]),
        (.text "x-nullable", .bool true)]),
      (.text "size", .map [(.text "type", .list ["integer", "null"])]),
      (.text "state", .map [(.text "enum", .list ["open", .null])]),
      (.text "owner", .map [(.text "oneOf", .list [
        .map [(.text "type", "null")], .map [(.text "$ref", "#/definitions/User")]])])]
    let members : Members := [(.text "properties", .map entries)]
    ∃ models written, properties resolve members = .ok models ∧ models.length = 5 ∧
      models.mapM Model.signature = .ok written ∧ ∀ member ∈ written, member.type.AdmitsNull := by
  intro entries members
  obtain ⟨written, made, -⟩ := Outcome.exists_of_any
    (x := properties resolve members >>= fun models => models.mapM Model.signature)
    (p := fun _ => true) (by decide +kernel)
  obtain ⟨models, found, signed⟩ := Outcome.bind_eq_ok.mp made
  have kept := keepsNull_of_properties found
  -- Each of the five schemas allows null in a way of its own.
  have allowed : ∀ declared ∈ entries,
      declared.1 ≠ .text indexSignature ∧ ∃ parts, declared.2 = .map parts ∧ AllowsNull parts := by
    simp only [entries, List.forall_mem_cons, List.not_mem_nil, false_imp_iff, implies_true, and_true]
    refine ⟨⟨by decide, _, rfl, ?_⟩, ⟨by decide, _, rfl, ?_⟩, ⟨by decide, _, rfl, ?_⟩,
      ⟨by decide, _, rfl, ?_⟩, ⟨by decide, _, rfl, ?_⟩⟩
    · exact .flag rfl
    · exact .extension rfl
    · exact .listed rfl (by simp)
    · exact .chosen rfl (Option.some_ne_none _).symm rfl List.mem_cons_self rfl (by simp)
    · exact .alternative rfl rfl List.mem_cons_self (by decide)
  refine ⟨models, written, found, kept.length_eq.symm, signed, fun member mem => ?_⟩
  obtain ⟨declared, inside, property, keeps, signs⟩ :=
    Outcome.exists_related (R := fun member declared => ∃ property, KeepsNull declared property ∧
      property.signature = .ok member) (Outcome.related_of_mapM kept signed).flip mem
  obtain ⟨other, parts, given, allows⟩ := allowed declared inside
  exact keeps.kept parts member given allows other signs

/-- The models of an object that come behind those of its declared properties: one for all further keys, if the
schema allows any. -/
def furtherModels (inner : Resolver) (members : Members) : Outcome (List Model) :=
  if (members.get "additionalProperties").truthy then
    (fun link => [{ link with name := .text indexSignature }]) <$> additional inner members
  else .ok []

/-- An object has the models of its declared properties, and that of its further keys behind these. -/
theorem properties_of_interface (made : interface inner members common = .ok m)
    (bare : common.properties = []) :
    ∃ models later, properties inner members = .ok models ∧ furtherModels inner members = .ok later ∧
      m.variant = .interface ∧ m.properties = models ++ later ∧ m.isNullable = common.isNullable := by
  obtain ⟨models, own, found, ownMade, beside⟩ := interface_eq_ok made
  obtain ⟨enums, -, rfl⟩ := withProperties_eq_ok.mp ownMade
  obtain ⟨closed, rfl⟩ | ⟨allowed, index, indexMade, rfl⟩ := beside
  · exact ⟨models, [], found, by simp [furtherModels, closed], rfl, by simp [bare], rfl⟩
  · refine ⟨models, [{ index with name := .text indexSignature }], found, ?_, rfl, by simp [bare], rfl⟩
    rw [furtherModels, if_pos allowed, indexMade]
    rfl

end TypedClient.Schema
