import TypedClient.Proofs.Schema.Shape
import TypedClient.Proofs.Schema.TypeUse
import TypedClient.Proofs.TypeScript.Literal

/-! The names that schemas stand for leave nothing open where they are written. -/

namespace TypedClient

open TypeScript

/-- No text of a type leaves anything open where it is written. -/
structure TypeUse.IsClosed (type : TypeUse) : Prop where
  text : Closed type.text.toList
  base : Closed type.base.toList
  template : ∀ argument, type.template = some argument → Closed argument.toList

/-- Leaving out underscores adds no characters. -/
theorem Name.collapsed_subset (cs : List Char) : collapsed cs ⊆ cs := by
  induction cs with
  | nil => exact List.Subset.refl _
  | cons c rest ih =>
    rw [collapsed]
    split
    · exact List.subset_cons_of_subset c ih
    · exact List.cons_subset_cons c ih

/-- An identifier has no signs. -/
theorem plain_sanitizeIdentifier (raw : String) : Plain (sanitizeIdentifier raw).toList := by
  have facts : ∀ c ∈ signs, Text.isIdentifierPart c = false ∧ c ≠ '_' := forall_signs (by decide)
  -- What may stand in an identifier is kept, and the filler takes the place of all else.
  have legal (cs : List Char) : Plain (Name.legalized '_' cs) := by
    refine List.forall_mem_map.mpr fun code _ sign => ?_
    obtain ⟨noPart, noFiller⟩ := facts _ sign
    split at noPart <;> simp_all
  have started (cs : List Char) (plain : Plain cs) : Plain (Name.startable cs) := by
    cases cs with
    | nil => exact plain
    | cons c rest =>
      rw [Name.startable]
      split
      · exact plain
      · exact plain.cons (by decide)
  rw [sanitizeIdentifier, String.toList_ofList, Name.identifier]
  split
  · decide
  · exact (started _ (legal _)).mono (Name.collapsed_subset _)

/-- A name has no signs, whether it is set apart from the reserved words or is none. -/
theorem plain_escapeReserved {name : String} (plain : Plain name.toList) :
    Plain (escapeReserved name).toList := by
  rw [escapeReserved]
  split
  · rw [String.toList_append]
    exact plain.append (by decide)
  · exact plain

/-- A primitive type leaves nothing open. -/
theorem closed_primitiveTypes {token primitive : String}
    (found : primitiveTypes.lookup token = some primitive) : Closed primitive.toList := by
  have facts : ∀ entry ∈ primitiveTypes, entry.2 = "unknown[]" ∨ Plain entry.2.toList := by decide
  -- One of the types is a list, and its brackets close.
  rcases facts _ (mem_primitiveTypes found) with array | plain
  · have brackets : Shows false ['[', ']'] := Closed.enclosed (by decide) (by decide) Shows.nil.closed
    have word : Plain "unknown".toList := by decide
    rw [show primitive = "unknown[]" from array]
    exact (word.shows.append brackets).closed
  · exact plain.shows.closed

namespace TypeUse

/-- The type with a given text is closed if the text is. -/
theorem isClosed_plain {text : String} (closed : Closed text.toList) : (plain text).IsClosed :=
  ⟨closed, closed, by simp [plain]⟩

/-- The type of a name is closed if the name is. -/
theorem isClosed_named {name : String} (closed : Closed name.toList) : (named name).IsClosed :=
  ⟨closed, closed, by simp [named]⟩

/-- The type of a part of a generic name is closed. -/
theorem isClosed_ofPart (cs : List Char) : (ofPart cs).IsClosed := by
  rw [ofPart]
  split
  · next found => exact isClosed_plain (closed_primitiveTypes found)
  · exact isClosed_named (plain_escapeReserved (plain_sanitizeIdentifier _)).shows.closed

/-- A generic type is closed if its parts are. -/
theorem IsClosed.generic {head argument : TypeUse} (first : head.IsClosed) (second : argument.IsClosed) :
    (generic head argument).IsClosed := by
  rw [TypeUse.generic]
  split
  · have brackets : Shows false ['[', ']'] := Closed.enclosed (by decide) (by decide) Shows.nil.closed
    refine ⟨?_, second.text, by simp⟩
    rw [String.toList_append]
    exact second.text.append brackets.closed
  · -- Angle brackets hide whatever operators the argument shows.
    have enclosed : Shows false ('<' :: (argument.text.toList ++ ['>'])) :=
      second.text.enclosed (by decide) (by decide)
    refine ⟨?_, first.text, ?_⟩
    · simpa [String.toList_append] using first.text.append enclosed.closed
    · rintro _ ⟨⟩
      exact second.text

/-- Recording a reference makes no difference to the texts of a type. -/
theorem IsClosed.referring {type : TypeUse} (closed : type.IsClosed) (token : String) :
    (type.referring token).IsClosed := by
  rw [TypeUse.referring]
  split
  · exact ⟨closed.text, closed.base, closed.template⟩
  · exact closed

/-- The unknown type is closed. -/
theorem isClosed_unknown : ({} : TypeUse).IsClosed :=
  isClosed_plain (Plain.shows (by decide)).closed

/-- The type that a name stands for is closed. -/
theorem isClosed_ofName (token : String) (name : List Char) : (ofName token name).IsClosed := by
  rw [ofName]
  -- A name is generic, unknown or an identifier.
  split
  · exact ((isClosed_ofPart _).generic (isClosed_ofPart _)).referring token
  · split
    · exact isClosed_unknown
    · exact (isClosed_named (plain_escapeReserved (plain_sanitizeIdentifier _)).shows.closed).referring token

/-- The type that a text stands for is closed. -/
theorem isClosed_of_ofText {token : String} {format : Value} {type : TypeUse}
    (made : ofText token format = .ok type) : type.IsClosed := by
  rw [ofText] at made
  split at made
  · next primitive found =>
    cases made
    -- The name of a primitive type is that of binary data, or one of the table.
    rw [mappedType?] at found
    split at found
    · cases found
      exact isClosed_plain (Plain.shows (by decide)).closed
    · exact isClosed_plain (closed_primitiveTypes found)
  · obtain ⟨name, -, made⟩ := Outcome.bind_eq_ok.mp made
    rw [← Outcome.pure_eq_ok.mp made]
    exact isClosed_ofName _ _

/-- The type that a token stands for is closed. -/
theorem isClosed_of_ofToken {token format : Value} {type : TypeUse}
    (made : ofToken token format = .ok type) : type.IsClosed := by
  have binary : Closed "binary".toList := (Plain.shows (by decide)).closed
  -- Without a token the type is unknown, and the binary format stands above every token.
  unfold ofToken at made
  by_cases absent : (!token.truthy) = true
  · rw [if_pos absent] at made
    cases made
    exact isClosed_unknown
  rw [if_neg absent] at made
  by_cases isBinary : (format == .text "binary") = true
  · rw [if_pos isBinary] at made
    cases made
    exact isClosed_plain binary
  rw [if_neg isBinary] at made
  cases token with
  | scalar s =>
    obtain ⟨text, -, made⟩ := Outcome.bind_eq_ok.mp made
    exact isClosed_of_ofText made
  | _ => cases made

end TypeUse

namespace ResolvedType

/-- A union of types is closed if they are. -/
theorem isClosed_union {types : List ResolvedType} (each : ∀ t ∈ types, t.IsClosed) (isNullable : Bool) :
    (union isNullable types).IsClosed := by
  match types, each with
  | [], _ => exact TypeUse.isClosed_plain (Plain.shows (by decide)).closed
  | [type], each => exact each type List.mem_cons_self
  | first :: second :: rest, each =>
    -- The text of a union shows its operator, but leaves nothing open.
    have joined : Closed (" | ".intercalate ((first :: second :: rest).map (·.text))).toList := by
      rw [String.toList_intercalate, List.map_map]
      exact Closed.intercalate (Shows.operator (by decide)).closed
        (List.forall_mem_map.mpr fun t mem => (each t mem).text)
    exact ⟨joined, joined, by simp [union]⟩

mutual

/-- The type that a token, or a list of tokens, stands for is closed. -/
theorem isClosed_of_ofValue {format : Value} : (v : Value) → {type : ResolvedType} →
    ofValue format v = .ok type → type.IsClosed
  | .list members, type, made => by
    obtain ⟨types, found, made⟩ := Outcome.bind_eq_ok.mp made
    rw [← Outcome.pure_eq_ok.mp made]
    exact isClosed_union (isClosed_of_ofMembers members found) _
  | .pair first second, type, made => by
    -- Each half of a pair gives one type, or none if it is null.
    have single (v : Value) (closed : ∀ {type : ResolvedType}, ofValue format v = .ok type → type.IsClosed)
        {types : List ResolvedType}
        (found : (if v.same (.text "null") then pure [] else (ofValue format v).map ([·])) = .ok types) :
        ∀ t ∈ types, t.IsClosed := by
      split at found
      · cases found
        simp
      · obtain ⟨type, made, rfl⟩ := Outcome.map_eq_ok.mp found
        simpa using closed made
    simp only [ofValue, Outcome.ite_bind_eq_ok, Outcome.pure_eq_ok] at made
    obtain ⟨earlier, foundFirst, later, foundSecond, rfl⟩ := made
    exact isClosed_union (List.forall_mem_append.mpr
      ⟨single first (isClosed_of_ofValue first) foundFirst,
        single second (isClosed_of_ofValue second) foundSecond⟩) _
  | .scalar s, type, made => by
    obtain ⟨own, found, rfl⟩ := Outcome.map_eq_ok.mp made
    exact TypeUse.isClosed_of_ofToken found
  | .map members, type, made => by
    obtain ⟨own, found, rfl⟩ := Outcome.map_eq_ok.mp made
    exact TypeUse.isClosed_of_ofToken found
  | .set items, type, made => by
    obtain ⟨own, found, rfl⟩ := Outcome.map_eq_ok.mp made
    exact TypeUse.isClosed_of_ofToken found

/-- The types of the members of a list of tokens are closed. -/
theorem isClosed_of_ofMembers {format : Value} : (members : List Value) → {types : List ResolvedType} →
    ofMembers format members = .ok types → ∀ t ∈ types, t.IsClosed
  | [], types, made => by
    cases made
    simp
  | v :: rest, types, made => by
    rw [ofMembers] at made
    split at made
    · exact isClosed_of_ofMembers rest made
    · simp only [Outcome.bind_eq_ok, Outcome.pure_eq_ok] at made
      obtain ⟨type, found, types, others, rfl⟩ := made
      exact List.forall_mem_cons.mpr ⟨isClosed_of_ofValue v found, isClosed_of_ofMembers rest others⟩

end

end ResolvedType

/-- The type of a model is closed, and so are those of all models that its type is made of. -/
inductive Model.IsClosed : Model → Prop
  | of {m : Model} (type : m.type.IsClosed) (properties : ∀ p ∈ m.properties, IsClosed p)
      (link : ∀ l, m.link = some l → IsClosed l) : IsClosed m

namespace Model

variable {m other : Model}

/-- The type of a closed model is closed. -/
theorem IsClosed.type (closed : m.IsClosed) : m.type.IsClosed := by
  cases closed
  assumption

/-- The properties of a closed model are closed. -/
theorem IsClosed.property (closed : m.IsClosed) : ∀ p ∈ m.properties, p.IsClosed := by
  cases closed
  assumption

/-- What a closed model is linked to is closed. -/
theorem IsClosed.link (closed : m.IsClosed) : ∀ l, m.link = some l → l.IsClosed := by
  cases closed
  assumption

/-- A model that holds no other one is closed if its type is. -/
theorem IsClosed.of_leaf (leaf : m.IsLeaf) (type : m.type.IsClosed) : m.IsClosed :=
  .of type (by simp [leaf.properties]) (by simp [leaf.link])

/-- What else is known of a model makes no difference to its type. -/
theorem IsClosed.of_same (closed : m.IsClosed) (type : other.type = m.type)
    (properties : other.properties = m.properties) (link : other.link = m.link) : other.IsClosed :=
  .of (type ▸ closed.type) (properties ▸ closed.property) (link ▸ closed.link)

end Model

namespace Schema

variable {inner : Resolver} {members : Members} {common m : Model}

/-- A part of a schema is closed if all that is resolved inside it is. -/
theorem isClosed_of_partModel {name part : Value} (resolved : PartModel inner name part m)
    (known : ∀ {name part m}, inner name part = .ok m → m.IsClosed) : m.IsClosed := by
  obtain ⟨_, ref, -, -, made⟩ | made := resolved
  · -- A reference is a name only, and holds no other model.
    obtain ⟨type, typed, rfl⟩ := reference_eq_ok.mp made
    exact .of_leaf ⟨rfl, rfl, rfl, rfl⟩ (ResolvedType.isClosed_of_ofValue ref typed)
  · exact known made

/-- The properties of a schema are closed if all that is resolved inside it is. -/
theorem isClosed_of_properties {models : List Model} (made : properties inner members = .ok models)
    (known : ∀ {name part m}, inner name part = .ok m → m.IsClosed) : ∀ p ∈ models, p.IsClosed := by
  obtain ⟨required, each⟩ := properties_eq_ok made
  intro p inside
  obtain ⟨entry, -, found⟩ := Outcome.exists_related each.flip inside
  obtain ⟨model, parts, -, resolved, rfl⟩ := property_eq_ok found
  exact (isClosed_of_partModel resolved known).of_same rfl rfl rfl

/-- The model of the further members of an object is closed. -/
theorem isClosed_of_additional (made : additional inner members = .ok m)
    (known : ∀ {name part m}, inner name part = .ok m → m.IsClosed) : m.IsClosed := by
  obtain ⟨-, rfl⟩ | ⟨schema, -, resolved⟩ := additional_eq_ok made
  · exact .of_leaf ⟨rfl, rfl, rfl, rfl⟩ TypeUse.isClosed_unknown
  · exact isClosed_of_partModel resolved known

/-- An object with the given properties is closed if these are. -/
theorem isClosed_of_withProperties {owner : Value} {models : List Model}
    (made : withProperties common owner models = .ok m) (closed : common.IsClosed)
    (each : ∀ p ∈ models, p.IsClosed) : m.IsClosed := by
  obtain ⟨_, -, rfl⟩ := withProperties_eq_ok.mp made
  exact .of ⟨closed.type.text, closed.type.base, closed.type.template⟩
    (List.forall_mem_append.mpr ⟨closed.property, each⟩) closed.link

/-- An object is closed if all that is resolved inside it is. -/
theorem isClosed_of_interface (made : interface inner members common = .ok m) (closed : common.IsClosed)
    (known : ∀ {name part m}, inner name part = .ok m → m.IsClosed) : m.IsClosed := by
  obtain ⟨models, own, found, ownMade, beside⟩ := interface_eq_ok made
  have object := isClosed_of_withProperties ownMade (closed.of_same rfl rfl rfl)
    (isClosed_of_properties found known)
  obtain ⟨-, rfl⟩ | ⟨-, index, indexMade, rfl⟩ := beside
  · exact object
  · have added := isClosed_of_additional indexMade known
    exact .of ⟨object.type.text, object.type.base, object.type.template⟩
      (List.forall_mem_append.mpr ⟨object.property,
        List.forall_mem_singleton.mpr (added.of_same rfl rfl rfl)⟩) object.link

/-- A composition is closed if all that is resolved inside it is. -/
theorem isClosed_of_composition {kind : Composition} {alternatives : Value}
    (made : composition inner kind alternatives members common = .ok m) (bare : common.link = none)
    (faithful : ∀ {name part m}, inner name part = .ok m → resolve name part = .ok m)
    (known : ∀ {name part m}, inner name part = .ok m → m.IsClosed) (closed : common.IsClosed) :
    m.IsClosed := by
  obtain ⟨parts, models, hasNull, -, found, beside⟩ := composition_eq_ok made
  have each : ∀ p ∈ models, p.IsClosed := by
    intro p inside
    obtain ⟨part, -, resolved⟩ := Outcome.exists_related (branches_eq_ok faithful found).1.flip inside
    exact known resolved
  have composed : (composedOf kind models hasNull common).IsClosed :=
    .of ⟨closed.type.text, closed.type.base, closed.type.template⟩ each
      (by simp [composedOf, Model.importing, bare])
  obtain ⟨-, rfl⟩ | ⟨-, declared, shared, declaredMade, sharedMade, rfl⟩ := beside
  · exact composed
  · have added : shared.IsClosed := isClosed_of_withProperties sharedMade
      (.of_leaf ⟨rfl, rfl, rfl, rfl⟩ TypeUse.isClosed_unknown) (isClosed_of_properties declaredMade known)
    refine .of ⟨composed.type.text, composed.type.base, composed.type.template⟩ ?_ composed.link
    -- The properties are one more part of an intersection, and are in each part of a union.
    simp only [withShared]
    split
    · exact List.forall_mem_append.mpr ⟨composed.property, by simpa using added⟩
    · intro p mem
      obtain ⟨alternative, inside, rfl⟩ := List.mem_map.mp mem
      have unknown := TypeUse.isClosed_unknown
      exact .of ⟨unknown.text, unknown.base, unknown.template⟩
        (by simp [sharing, added, each alternative inside]) (by simp [sharing])

/-- Whatever a schema is resolved to, the names in its type leave nothing open. -/
theorem isClosed_of_resolve {name schema : Value} (resolved : resolve name schema = .ok m) :
    m.IsClosed := by
  -- What is inside a schema is resolved first, and closed; the cases are the forms that a schema may have.
  refine resolve_induction (P := fun _ _ m => m.IsClosed) ?_ resolved
  intro name members inner m within made
  have known {name part m} (found : inner name part = .ok m) : m.IsClosed := (within found).2
  have leaf : (described name members).IsLeaf := ⟨rfl, rfl, rfl, rfl⟩
  have bare : (described name members).IsClosed := .of_leaf leaf TypeUse.isClosed_unknown
  cases form : Form.of members <;> rw [form] at made
  case reference ref =>
    obtain ⟨type, typed, rfl⟩ := reference_eq_ok.mp made
    exact .of_leaf ⟨rfl, rfl, rfl, rfl⟩ (ResolvedType.isClosed_of_ofValue ref typed)
  case enumeration =>
    obtain ⟨enum, -, rfl⟩ := Outcome.map_eq_ok.mp made
    exact .of (TypeUse.isClosed_plain (Plain.shows (by decide)).closed)
      (by simp [Form.enumerationOf, described]) (by simp [Form.enumerationOf, described])
  case array items =>
    obtain ⟨_, ref, type, -, -, typed, rfl⟩ | ⟨link, found, rfl⟩ := array_eq_ok made
    · exact .of_leaf ⟨rfl, rfl, rfl, rfl⟩ (ResolvedType.isClosed_of_ofValue ref typed)
    · exact .of (known found).type (by simp [described]) (by simpa using known found)
  case composition kind alternatives =>
    exact isClosed_of_composition made rfl (fun found => (within found).1) known bare
  case interface => exact isClosed_of_interface made bare known
  case dictionary =>
    obtain ⟨link, found, rfl⟩ := dictionary_eq_ok.mp made
    have closed := isClosed_of_additional found known
    exact .of closed.type (by simp [described]) (by simpa using closed)
  case constant value =>
    cases made
    exact .of_leaf ⟨rfl, rfl, rfl, rfl⟩ (TypeUse.isClosed_plain (shows_enumLiteral false value).closed)
  case token type =>
    obtain ⟨resolved, typed, rfl⟩ := token_eq_ok.mp made
    exact .of_leaf ⟨rfl, rfl, rfl, rfl⟩ (ResolvedType.isClosed_of_ofValue type typed)
  case anything =>
    cases made
    exact bare

end Schema

end TypedClient
