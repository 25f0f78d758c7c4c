import TypedClient.Declaration.TypeExpr
import TypedClient.Proofs.Schema.Tokens
import TypedClient.Proofs.Value.Equality
import TypedClient.TypeScript.Print

/-! Schemas with a list of types: what null beside a type changes. -/

namespace TypedClient

/-- The model with null allowed. -/
def Model.allowingNull (m : Model) : Model :=
  { m with isNullable := true }

namespace Schema

section Resolvers

variable {f g : Resolver} {members : Members} {common : Model}

/-- Alternatives are resolved in the same way by what resolves each of them in the same way. -/
theorem branches_congr {parts : List Value} (same : ∀ part ∈ parts, f (.text "") part = g (.text "") part) :
    branches f parts = branches g parts := by
  induction parts with
  | nil => rfl
  | cons part rest ih =>
    obtain ⟨first, others⟩ := List.forall_mem_cons.mp same
    rw [branches, branches, first, ih others]

/-- The two resolvers do the same for all that is smaller than the schema. -/
def SameWithin (members : Members) (f g : Resolver) : Prop :=
  ∀ name part, part.size < (Value.map members).size → f name part = g name part

namespace SameWithin

/-- Properties are resolved in the same way. -/
theorem properties_eq (same : SameWithin members f g) : properties f members = properties g members := by
  refine Outcome.bind_congr fun required _ => Outcome.bind_congr fun declared found => ?_
  refine Outcome.mapM_congr fun entry mem => ?_
  have smaller := size_lt_of_mem_declaredProperties (declaredProperties_eq found ▸ mem)
  rw [property, property, same _ _ smaller]

/-- Further members are resolved in the same way. -/
theorem additional_eq (same : SameWithin members f g) : additional f members = additional g members := by
  have within := @size_lt_of_additionalSchema? members
  rw [additionalSchema?] at within
  rw [additional, additional]
  split
  · rfl
  · next first rest given =>
    rw [same _ _ (within (by rw [given]))]
  · rfl

/-- A schema of any form is resolved in the same way. -/
theorem model_eq (same : SameWithin members f g) :
    (Form.of members).model f members common = (Form.of members).model g members common := by
  -- Whatever a form has resolved is a part of the schema, and so smaller than it.
  cases form : Form.of members with
  | array items =>
    obtain ⟨rfl, truthy⟩ := Form.eq_of_array form
    simp only [Form.model, array, same _ _ (Value.size_get_lt truthy)]
  | composition kind alternatives =>
    obtain ⟨keyword, -, rfl, truthy⟩ := Form.eq_of_composition form
    have smaller := Value.size_get_lt truthy
    refine Outcome.bind_congr fun parts listed => ?_
    rw [branches_congr fun part mem => same _ _ <|
      Nat.lt_of_le_of_lt (Value.size_le_of_mem_elements listed mem) smaller, same.properties_eq]
  | interface => simp only [Form.model, interface, same.properties_eq, same.additional_eq]
  | dictionary => simp only [Form.model, dictionary, same.additional_eq]
  | _ => rfl

end SameWithin

/-- A schema is resolved as its form says, its parts as schemas of their own. -/
theorem resolve_eq (name : Value) (members : Members) : resolve name (.map members)
    = (Form.of members).model resolve members (described name members) := by
  rw [resolve_map]
  exact SameWithin.model_eq fun name part smaller => if_pos smaller

end Resolvers

/-- The two schemas have the same under every keyword but the type. -/
def AgreeBesideType (members other : Members) : Prop :=
  ∀ key, key ≠ "type" → members.get? key = other.get? key

section Agreeing

variable {members other : Members} {common : Model} {inner : Resolver} {t : String} {name : Value}

namespace AgreeBesideType

theorem get_eq (agree : AgreeBesideType members other) (key : String) (apart : key ≠ "type") :
    members.get key = other.get key :=
  Members.AgreeBeside.get_eq agree key apart

theorem has_eq (agree : AgreeBesideType members other) (key : String) (apart : key ≠ "type") :
    members.has key = other.has key :=
  Members.AgreeBeside.has_eq agree key apart

/-- Properties do not depend on the type that stands beside them. -/
theorem properties_eq (agree : AgreeBesideType members other) :
    properties inner members = properties inner other := by
  simp [properties, agree.get_eq]

/-- Further members do not depend on the type that stands beside them. -/
theorem additional_eq (agree : AgreeBesideType members other) :
    additional inner members = additional inner other := by
  simp [additional, agree.get_eq]

/-- The alternatives of a composition do not depend on the type that stands beside them. -/
theorem composed?_eq (agree : AgreeBesideType members other) : composed? members = composed? other := by
  simp [composed?, compositions, List.findSome?_cons, agree.get_eq]

/-- Schemas that are read in the same form have the same model, whatever their types are. -/
theorem model_eq (agree : AgreeBesideType members other) (form : Form) :
    form.model inner members common = form.model inner other common := by
  have enumeration : Form.enumerationOf members = Form.enumerationOf other := by
    funext common enum
    simp [Form.enumerationOf, agree.get_eq]
  cases form <;> simp [Form.model, enumeration, enumValues, composition, interface, dictionary,
    agree.get_eq, agree.properties_eq, agree.additional_eq]

end AgreeBesideType

/-- Properties are added to a model in the same way if it allows null. -/
theorem withProperties_allowingNull (common : Model) (owner : Value) (models : List Model) :
    withProperties common.allowingNull owner models
      = Model.allowingNull <$> withProperties common owner models := by
  simp only [withProperties, bind_pure_comp, Functor.map_map]
  rfl

/-- A model that allows null comes of a schema of any form exactly as it does if null is not allowed. -/
theorem Form.model_allowingNull (form : Form) :
    form.model inner members common.allowingNull
      = Model.allowingNull <$> form.model inner members common := by
  -- Whether null is allowed is passed on and added to, but not asked for.
  cases form with
  | reference ref =>
    simp only [Form.model, Schema.reference, map_bind]
    rfl
  | enumeration =>
    simp only [Form.model, Functor.map_map]
    congr 1
  | array items =>
    simp only [Form.model, Schema.array, map_bind]
    refine Outcome.bind_congr fun isReference _ => ?_
    cases isReference <;> simp only [Bool.false_eq_true, if_true, if_false, map_bind] <;> rfl
  | composition kind alternatives =>
    simp only [Form.model, Schema.composition, map_bind]
    refine Outcome.bind_congr fun parts _ => Outcome.bind_congr fun found _ => ?_
    split
    · simp only [map_bind]
      rfl
    · rfl
  | interface =>
    simp only [Form.model, Schema.interface, map_bind]
    refine Outcome.bind_congr fun models _ => ?_
    have own := withProperties_allowingNull { common with variant := .interface } common.name models
    refine (congrArg (· >>= _) own).trans ?_
    rw [bind_map_left]
    refine Outcome.bind_congr fun own _ => ?_
    split
    · simp only [map_bind]
      rfl
    · rfl
  | dictionary =>
    simp only [Form.model, Schema.dictionary, map_bind]
    rfl
  | constant value => rfl
  | token type =>
    simp only [Form.model, Schema.token, map_bind]
    rfl
  | anything => rfl

/-- The text is the name of a type that changes how a schema is read, apart from the type that it names: what
the schema says elsewhere is read differently, or not at all, if its type is no text. -/
inductive ReadByType (members : Members) : String → Prop
  /-- Listed truth values are no enum. -/
  | flag (bare : members.get? "$ref" = none) (listed : listsEnumerable (members.get "enum") = true) :
    ReadByType members "boolean"
  /-- The items of a list are looked at. -/
  | list (bare : members.get? "$ref" = none) (unlisted : listsEnumerable (members.get "enum") = false)
      (items : (members.get "items").truthy = true) : ReadByType members "array"
  /-- An object that says nothing of its properties is one all the same. -/
  | object (bare : members.get? "$ref" = none) (unlisted : listsEnumerable (members.get "enum") = false)
      (single : composed? members = none) (undeclared : members.has "properties" = false)
      (closed : members.has "additionalProperties" = false) : ReadByType members "object"

/-- The form with another token, if it has one. -/
def Form.withToken (type : Value) : Form → Form
  | token _ => token type
  | form => form

/-- A list of types is no type by name. -/
theorem type_of_list {types : List Value} {word : String} (listed : other.get? "type" = some (.list types)) :
    (other.get "type" == .text word) = false := by
  rw [Members.get, listed]
  rfl

/-- A text is a type by name if it is the name. -/
theorem type_of_text {word : String} (single : members.get? "type" = some (.text t)) :
    (members.get "type" == .text word) = decide (t = word) := by
  rw [Members.get, single, Bool.eq_iff_iff, decide_eq_true_iff]
  simp [Value.beq_text]

/-- Apart from items that are not looked at and objects that are not known to be such, a list of types leaves
the structure of a schema as it is. -/
theorem Form.ofStructure_typeList {types : List Value} (agree : AgreeBesideType members other)
    (single : members.get? "type" = some (.text t)) (listed : other.get? "type" = some (.list types))
    (noItems : t = "array" → (members.get "items").truthy = false)
    (known : t = "object" → composed? members = none →
      (members.has "properties" || members.has "additionalProperties") = true) :
    Form.ofStructure other = (Form.ofStructure members).withToken (.list types) := by
  have unread : (decide (t = "array") && (members.get "items").truthy) = false := by
    by_cases isArray : t = "array"
    · simp [noItems isArray]
    · simp [isArray]
  simp only [ofStructure, isObject, type_of_list listed, type_of_text single, unread, ← agree.composed?_eq,
    ← agree.has_eq "properties" (by decide), ← agree.has_eq "additionalProperties" (by decide),
    ← agree.get_eq "properties" (by decide), ← agree "const" (by decide), listed, single,
    Bool.false_and, Bool.false_or, Bool.false_eq_true, if_false, Bool.or_assoc]
  cases composed : composed? members with
  | some found => rfl
  | none =>
    -- An object is known by what it declares, or else the text was not the name of one.
    cases declared : members.has "properties" || members.has "additionalProperties" with
    | true =>
      simp only [Bool.or_true, if_true]
      split <;> rfl
    | false =>
      have noObject : t ≠ "object" := fun isObject => by simp [known isObject composed] at declared
      simp only [noObject, decide_false, Bool.or_false, Bool.false_eq_true, if_false]
      cases members.get? "const" <;> rfl

/-- Unless a schema is read by its type, a list of types in its place leaves the form as it is. -/
theorem Form.of_typeList {types : List Value} (agree : AgreeBesideType members other)
    (single : members.get? "type" = some (.text t)) (listed : other.get? "type" = some (.list types))
    (apart : ¬ ReadByType members t) : Form.of other = (Form.of members).withToken (.list types) := by
  rw [Form.of, Form.of, ← agree "$ref" (by decide)]
  cases bare : members.get? "$ref" with
  | some ref => rfl
  | none =>
    simp only [isEnumeration, type_of_list listed, type_of_text single, ← agree.get_eq "enum" (by decide)]
    cases unlisted : listsEnumerable (members.get "enum") with
    | true =>
      -- Listed values are an enum unless the type is the name of truth values.
      have noFlag : t ≠ "boolean" := by
        rintro rfl
        exact apart (.flag bare unlisted)
      simp [noFlag, withToken]
    | false =>
      simp only [Bool.and_false, Bool.false_eq_true, if_false]
      refine ofStructure_typeList agree single listed ?_ ?_
      · rintro rfl
        exact Bool.eq_false_iff.mpr fun items => apart (.list bare unlisted items)
      · rintro rfl composed
        refine Bool.not_eq_false _ ▸ fun undeclared => ?_
        obtain ⟨properties, additional⟩ := Bool.or_eq_false_iff.mp undeclared
        exact apart (.object bare unlisted composed properties additional)

/-- A structure is no enum. -/
theorem Form.variant_ofStructure (members : Members) : (Form.ofStructure members).variant ≠ .enumeration := by
  rw [ofStructure]
  grind [Form.variant]

/-- A schema that is read by its type has a model of another kind if a list of types is in its place. -/
theorem Form.variant_typeList {types : List Value} (agree : AgreeBesideType members other)
    (single : members.get? "type" = some (.text t)) (listed : other.get? "type" = some (.list types))
    (read : ReadByType members t) : (Form.of other).variant ≠ (Form.of members).variant := by
  have enum := agree.get_eq "enum" (by decide)
  -- In each case the text leads to one form, and the list of types to others.
  cases read with
  | flag bare enumerable =>
    have here : Form.of members = Form.ofStructure members := by
      simp [Form.of, bare, isEnumeration, type_of_text single]
    have there : Form.of other = .enumeration := by
      simp [Form.of, ← agree "$ref" (by decide), bare, isEnumeration, type_of_list listed, ← enum, enumerable]
    rw [here, there]
    exact (variant_ofStructure members).symm
  | list bare unlisted items =>
    have here : Form.of members = .array (members.get "items") := by
      simp [Form.of, bare, isEnumeration, unlisted, ofStructure, type_of_text single, items]
    have there : Form.of other = Form.ofStructure other := by
      simp [Form.of, ← agree "$ref" (by decide), bare, isEnumeration, ← enum, unlisted]
    rw [here, there, ofStructure, type_of_list listed]
    grind [Form.variant]
  | object bare unlisted composed undeclared closed =>
    have empty : (members.get "properties").truthy = false := by
      have absent : members.get? "properties" = none := by simpa [Members.has] using undeclared
      rw [Members.get, absent]
      rfl
    have here : Form.of members = .dictionary := by
      simp [Form.of, bare, isEnumeration, unlisted, ofStructure, isObject, type_of_text single, composed, empty]
    have there : Form.of other = Form.ofStructure other := by
      simp [Form.of, ← agree "$ref" (by decide), bare, isEnumeration, ← enum, unlisted]
    rw [here, there]
    simp only [ofStructure, isObject, type_of_list listed, ← agree.composed?_eq, composed,
      ← agree.has_eq "properties" (by decide), undeclared,
      ← agree.has_eq "additionalProperties" (by decide), closed]
    grind [Form.variant]

/-- A type and null, in either order. -/
def IsOrNull (t : String) (types : List Value) : Prop :=
  types = [.text t, .text "null"] ∨ types = [.text "null", .text t]

/-- Null beside a type says that null is allowed, and nothing else. -/
theorem resolveType_orNull {types : List Value} {format : Value} (orNull : IsOrNull t types) (other : t ≠ "null") :
    resolveType (.list types) format
      = (fun type => { type with isNullable := true }) <$> resolveType (.text t) format := by
  have apart : (Value.text t).same (.text "null") = false :=
    Bool.eq_false_iff.mpr fun equal => other (Scalar.text.inj (Value.scalar.inj (Value.beq_text.mp equal)))
  have null : (Value.text "null").same (.text "null") = true := Value.beq_text.mpr rfl
  -- Null is left out of the types of the list, so the union is one of a single type.
  have alone : ResolvedType.ofMembers format types
      = (fun type => [type]) <$> ResolvedType.ofValue format (.text t) := by
    obtain rfl | rfl := orNull
    all_goals
      simp only [ResolvedType.ofMembers, apart, null, Bool.false_eq_true, if_true, if_false]
      exact bind_pure_comp _ _
  have listed : (Value.text "null").isIn types = true := by
    rw [Value.isIn_text]
    obtain rfl | rfl := orNull <;> simp
  rw [resolveType, ResolvedType.ofValue, alone, listed, bind_map_left]
  simp [ResolvedType.union, resolveType]

/-- The model of a list of a type and null is that of the type with null allowed. -/
theorem token_orNull {types : List Value} {format : Value} (orNull : IsOrNull t types) (other : t ≠ "null") :
    token (.list types) format common.allowingNull = Model.allowingNull <$> token (.text t) format common := by
  simp only [token, resolveType_orNull orNull other, map_bind, bind_map_left]
  rfl

/-- What a schema says beside its form is the same with null in its type, which allows null. -/
theorem described_orNull {types : List Value} (agree : AgreeBesideType members other)
    (listed : other.get? "type" = some (.list types)) (orNull : IsOrNull t types) :
    described name other = (described name members).allowingNull := by
  have nullable : isNullable other = true := by
    have null : (Value.text "null").isIn types = true := by
      rw [Value.isIn_text]
      obtain rfl | rfl := orNull <;> simp
    simp [isNullable, Members.get, listed, null]
  simp [described, Model.allowingNull, nullable, agree.get_eq]

/-- Unless a schema is read by its type, null in its type allows null and changes nothing else. -/
theorem resolve_orNull {types : List Value} (agree : AgreeBesideType members other)
    (single : members.get? "type" = some (.text t)) (listed : other.get? "type" = some (.list types))
    (orNull : IsOrNull t types) (notNull : t ≠ "null") (apart : ¬ ReadByType members t) :
    resolve name (.map other) = Model.allowingNull <$> resolve name (.map members) := by
  rw [resolve_eq, resolve_eq, Form.of_typeList agree single listed apart, described_orNull agree listed orNull,
    ← agree.model_eq]
  cases form : Form.of members with
  | token type =>
    cases single.symm.trans (Form.get?_of_token form)
    exact token_orNull orNull notNull
  | _ => exact Form.model_allowingNull _

/-- The model of a schema is of the kind that its form says. -/
theorem variant_of_model {m : Model} {default : Value} {isDefinition : Bool}
    (made : model (.map members) isDefinition name default = .ok m) : m.variant = (Form.of members).variant := by
  obtain ⟨bare, _, resolved, rfl⟩ := model_eq_ok made
  rw [resolve_eq] at resolved
  exact (variant_and_name_of_model rfl resolved).1

/-- Null in the type of a schema allows null and changes nothing else, in whatever order the two stand, exactly
unless the schema is read by its type. -/
theorem model_orNull_iff {types : List Value} {default : Value} {isDefinition : Bool}
    (agree : AgreeBesideType members other) (single : members.get? "type" = some (.text t))
    (listed : other.get? "type" = some (.list types)) (orNull : IsOrNull t types) (notNull : t ≠ "null") :
    (¬ ReadByType members t → model (.map other) isDefinition name default
      = Model.allowingNull <$> model (.map members) isDefinition name default) ∧
    (ReadByType members t → ∀ m, model (.map members) isDefinition name default = .ok m →
      model (.map other) isDefinition name default ≠ .ok m.allowingNull) := by
  constructor
  · intro apart
    simp only [model, resolve_orNull agree single listed orNull notNull apart, map_bind, bind_map_left]
    refine Outcome.bind_congr fun bare _ => ?_
    have given := agree.has_eq "default" (by decide)
    simp only [Value.members, Bind.bind, Except.bind, given]
    rfl
  · intro read m made same
    -- A model has the kind of its form, and allowing null does not change it.
    refine Form.variant_typeList agree single listed read ?_
    rw [← variant_of_model made, ← variant_of_model same]
    rfl

/-- A date or null, in the order that puts null first. -/
theorem model_orNull_iff_date :
    let single : Members := [(.text "type", "string"), (.text "format", "date"), (.text "default", "today")]
    let listed : Members := [(.text "format", "date"), (.text "type", .list ["null", "string"]),
      (.text "default", "today")]
    ∃ m, model (.map single) true (.text "Day") .null = .ok m ∧ m.isNullable = false ∧
      model (.map listed) true (.text "Day") .null = .ok m.allowingNull := by
  intro single listed
  have agree : AgreeBesideType single listed := by
    intro key apart
    have other : (Scalar.text key == Scalar.text "type") = false := by simpa using apart
    simp only [single, listed, Members.get?, List.lookup_cons, other]
  obtain ⟨m, made, seen⟩ := Outcome.exists_of_any (x := model (.map single) true (.text "Day") .null)
    (p := fun m => !m.isNullable) (by decide +kernel)
  have apart : ∀ t, ReadByType single t → t ≠ "string" := by
    rintro _ (_ | _ | _) <;> decide
  refine ⟨m, made, by simpa using seen, ?_⟩
  rw [(model_orNull_iff agree rfl rfl (.inr rfl) (by decide)).1 (fun read => apart _ read rfl), made]
  rfl

/-- A list or null is written as one of anything, since the items of a list are only looked at if the type is
the name of one. -/
theorem not_orNull_of_array :
    let items : Value := .map [(.text "type", "string")]
    let single : Value := .map [(.text "type", "array"), (.text "items", items)]
    let listed : Value := .map [(.text "type", .list ["array", "null"]), (.text "items", items)]
    let written (m : Model) := m.typeExpr >>= fun type => printType type 0
    ∃ m other, model single false (.text "") .null = .ok m ∧ model listed false (.text "") .null = .ok other ∧
      written m.allowingNull = .ok "string[] | null" ∧ written other = .ok "unknown[] | null" ∧
      other ≠ m.allowingNull := by
  intro items single listed written
  obtain ⟨m, made, seen⟩ := Outcome.exists_of_any (x := model single false (.text "") .null)
    (p := fun m => (written m.allowingNull).toOption.any fun text => decide (text = "string[] | null"))
    (by decide +kernel)
  obtain ⟨other, otherMade, otherSeen⟩ := Outcome.exists_of_any (x := model listed false (.text "") .null)
    (p := fun m => (written m).toOption.any fun text => decide (text = "unknown[] | null"))
    (by decide +kernel)
  obtain ⟨_, text, same⟩ := Outcome.exists_of_any seen
  obtain ⟨_, otherText, otherSame⟩ := Outcome.exists_of_any otherSeen
  rw [of_decide_eq_true same] at text
  rw [of_decide_eq_true otherSame] at otherText
  refine ⟨m, other, made, otherMade, text, otherText, ?_⟩
  rintro rfl
  exact absurd (Except.ok.inj (text.symm.trans otherText)) (by decide)

end Agreeing

end Schema

end TypedClient
