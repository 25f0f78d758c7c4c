import TypedClient.Proofs.Schema.EnumLabels
import TypedClient.Proofs.Schema.References
import TypedClient.Proofs.Schema.TypeLists
import TypedClient.Schema.Declared

/-! Schemas of the right shape: the references that are visited when one is resolved, and how it fails. -/

namespace TypedClient.Schema

/-- A type is a text, or a list of texts, none of which could be taken for a reference. -/
inductive IsTypeToken : Value → Prop
  | single {token : String} (plain : '#' ∉ token.toList) : IsTypeToken (.text token)
  | several {tokens : List String} (plain : ∀ token ∈ tokens, '#' ∉ token.toList) :
    IsTypeToken (.list (tokens.map .text))

/-- The keywords of a schema have values of the kinds that they are for, or count as absent. -/
structure HasPlainKeywords (members : Members) : Prop where
  reference : ∀ ref, members.get? "$ref" = some ref → ∃ s, ref = .text s
  type : ∀ type, members.get? "type" = some type → IsTypeToken type
  alternatives : ∀ entry ∈ compositions, (members.get entry.1).truthy = true →
    ∃ parts, members.get entry.1 = .list parts
  properties : (members.get "properties").truthy = true → ∃ declared, members.get "properties" = .map declared
  propertyNames : ∀ entry ∈ declaredProperties members, ∃ s, entry.1 = .text s
  required : (members.get "required").truthy = true →
    ∃ names : List String, members.get "required" = .list (names.map .text)
  labels : ∀ keyword ∈ ["x-enum-varnames", "x-enumNames", "x-enum-descriptions"],
    (members.get keyword).truthy = true → ∃ labels, members.get keyword = .list labels

/-- A schema is a map of plain keywords, and so is every schema inside it. -/
inductive WellShaped : Value → Prop
  | intro {members : Members} (plain : HasPlainKeywords members)
    (items : (members.get "items").truthy = true → WellShaped (members.get "items"))
    (alternatives : ∀ entry ∈ compositions, ∀ parts, members.get entry.1 = .list parts →
      ∀ part ∈ parts, WellShaped part)
    (properties : ∀ entry ∈ declaredProperties members, WellShaped entry.2)
    (further : ∀ schema, additionalSchema? members = some schema → WellShaped schema) : WellShaped (.map members)

/-- The references that are visited when a schema is resolved, which is read in the first form that fits. -/
inductive Visits : Value → String → Prop
  /-- A schema that is a reference is nothing else. -/
  | own {members : Members} {ref : String} (here : members.get? "$ref" = some (.text ref)) : Visits (.map members) ref
  | items {members : Members} {items : Value} {ref : String} (form : Form.of members = .array items)
    (inside : Visits items ref) : Visits (.map members) ref
  /-- The alternatives are those of the first keyword that has any, and those that only allow null are passed. -/
  | alternative {members : Members} {kind : Composition} {parts : List Value} {part : Value} {ref : String}
    (form : Form.of members = .composition kind (.list parts)) (mem : part ∈ parts)
    (restricts : isNullTyped part = false) (inside : Visits part ref) : Visits (.map members) ref
  /-- The properties are those beside the alternatives, or those of an object. -/
  | property {members : Members} {entry : Scalar × Value} {ref : String}
    (form : Form.of members = .interface ∨ ∃ kind alternatives, Form.of members = .composition kind alternatives)
    (mem : entry ∈ declaredProperties members) (inside : Visits entry.2 ref) : Visits (.map members) ref
  | further {members : Members} {schema : Value} {ref : String}
    (form : Form.of members = .interface ∨ Form.of members = .dictionary)
    (given : additionalSchema? members = some schema) (inside : Visits schema ref) : Visits (.map members) ref

/-- The schema is of the right shape, and an unsupported reference that it visits is reported under any name. -/
structure IsHandled (schema : Value) : Prop where
  shaped : WellShaped schema
  reports : ∀ name, Reports (resolve name schema) (Visits schema)

variable {members : Members} {common : Model} {schema part : Value} {ref : String}

theorem WellShaped.exists_members (shaped : WellShaped schema) :
    ∃ members : Members, schema = .map members ∧ HasPlainKeywords members := by
  cases shaped with
  | intro plain => exact ⟨_, rfl, plain⟩

/-- A schema that has a reference is read as one. -/
theorem Form.of_eq_reference_iff {target : Value} :
    Form.of members = .reference target ↔ members.get? "$ref" = some target := by
  constructor
  · intro form
    simp only [Form.of, Form.ofStructure] at form
    grind
  · intro here
    rw [Form.of, here]

/-- Which references a schema visits is told by its form. -/
theorem visits_iff : Visits (.map members) ref ↔
    match Form.of members with
    | .reference target => target = .text ref
    | .array items => Visits items ref
    | .composition _ alternatives =>
      (∃ parts, alternatives = .list parts ∧ ∃ part ∈ parts, isNullTyped part = false ∧ Visits part ref) ∨
        ∃ entry ∈ declaredProperties members, Visits entry.2 ref
    | .interface =>
      (∃ entry ∈ declaredProperties members, Visits entry.2 ref) ∨
        ∃ schema, additionalSchema? members = some schema ∧ Visits schema ref
    | .dictionary => ∃ schema, additionalSchema? members = some schema ∧ Visits schema ref
    | _ => False := by
  -- The forms and the ways to visit a reference match each other.
  constructor
  · intro visits
    cases visits with
    | own here => rw [Form.of_eq_reference_iff.mpr here]
    | items form inside => rwa [form]
    | alternative form mem restricts inside =>
      rw [form]
      exact .inl ⟨_, rfl, _, mem, restricts, inside⟩
    | property form mem inside =>
      rcases form with form | ⟨kind, alternatives, form⟩ <;> rw [form]
      · exact .inl ⟨_, mem, inside⟩
      · exact .inr ⟨_, mem, inside⟩
    | further form given inside =>
      rcases form with form | form <;> rw [form]
      · exact .inr ⟨_, given, inside⟩
      · exact ⟨_, given, inside⟩
  · intro told
    generalize form : Form.of members = read at told
    cases read with
    | reference target =>
      subst told
      exact .own (Form.of_eq_reference_iff.mp form)
    | array items => exact .items form told
    | composition kind alternatives =>
      rcases told with ⟨parts, rfl, part, mem, restricts, inside⟩ | ⟨entry, mem, inside⟩
      · exact .alternative form mem restricts inside
      · exact .property (.inr ⟨kind, alternatives, form⟩) mem inside
    | interface =>
      rcases told with ⟨entry, mem, inside⟩ | ⟨schema, given, inside⟩
      · exact .property (.inl form) mem inside
      · exact .further (.inl form) given inside
    | dictionary =>
      obtain ⟨schema, given, inside⟩ := told
      exact .further (.inr form) given inside
    | _ => exact told.elim

/-- A schema that is a reference visits nothing but this. -/
theorem visits_of_reference {target : String} (here : members.get? "$ref" = some (.text target)) :
    Visits (.map members) ref ↔ ref = target := by
  rw [visits_iff, Form.of_eq_reference_iff.mpr here]
  exact ⟨fun same => by cases same; rfl, fun same => by rw [same]⟩

/-- The model of a reference looks at nothing but this. -/
theorem reports_reference (ref : String) (common : Model) : Reports (reference (.text ref) common) (· = ref) :=
  (reports_resolveType ref).bind_ok fun _ _ => ⟨_, rfl⟩

/-- A text for a type that is no reference has a type, and so has a list of them. -/
theorem exists_token {type : Value} (plain : IsTypeToken type) (format : Value) (common : Model) :
    ∃ m, token type format common = .ok m := by
  -- A text without a number sign points nowhere, so it is never refused.
  have supported {token : String} (plain : '#' ∉ token.toList) : ¬ IsUnsupported token := fun known => plain known.1
  suffices typed : ∃ resolved, resolveType type format = .ok resolved by
    obtain ⟨resolved, typed⟩ := typed
    exact ⟨_, token_eq_ok.mpr ⟨resolved, typed, rfl⟩⟩
  cases plain with
  | single plain => exact exists_resolveType (supported plain) format
  | several plain =>
    rw [resolveType_texts]
    obtain ⟨types, each⟩ := Outcome.exists_mapM fun token mem =>
      exists_resolveType (supported (plain token (List.mem_of_mem_filter mem))) format
    rw [each]
    exact ⟨_, rfl⟩

namespace HasPlainKeywords

variable (plain : HasPlainKeywords members)

include plain

/-- The names of required properties can be compared with those of the declared ones. -/
theorem exists_required : ∃ required, ((members.get "required").orElse (.list [])).asKeys = .ok required := by
  cases truthy : (members.get "required").truthy with
  | true =>
    obtain ⟨names, given⟩ := plain.required truthy
    rw [Value.orElse, truthy, given]
    have keys : (names.map Value.text).all Value.isKey = true := by simp [Value.isKey]
    exact ⟨_, Outcome.bind_eq_ok.mpr ⟨_, rfl, if_pos keys⟩⟩
  | false =>
    rw [Value.orElse, truthy]
    exact ⟨_, rfl⟩

/-- The declared properties can be gone through. -/
theorem members_properties :
    ((members.get "properties").orElse (.map [])).members = .ok (declaredProperties members) := by
  cases truthy : (members.get "properties").truthy with
  | true =>
    obtain ⟨declared, given⟩ := plain.properties truthy
    rw [Value.orElse, truthy, declaredProperties, given]
    rfl
  | false =>
    rw [Value.orElse, truthy, declaredProperties_of_falsy truthy]
    rfl

/-- There are enum values wherever there are some to choose from. -/
theorem exists_enumValues : ∃ enum, enumValues members = .ok enum := by
  have listed {labels : Value} (plain : labels.truthy = true → ∃ items, labels = .list items) :
      ∃ items, labels.orElse (.list []) = .list items := by
    rw [Value.orElse]
    split
    · next truthy => exact plain truthy
    · exact ⟨[], rfl⟩
  -- Names stand under either of two keywords, the second of which is only looked at without the first.
  obtain ⟨names, named⟩ : ∃ names,
      ((members.get "x-enum-varnames").orElse (members.get "x-enumNames")).orElse (.list []) = .list names := by
    refine listed fun truthy => ?_
    cases first : (members.get "x-enum-varnames").truthy <;> rw [Value.orElse, first] at truthy ⊢
    · exact plain.labels "x-enumNames" (by simp) truthy
    · exact plain.labels "x-enum-varnames" (by simp) first
  obtain ⟨descriptions, described⟩ := listed (plain.labels "x-enum-descriptions" (by simp))
  rw [enumValues]
  split
  · simp only [named, described]
    exact Outcome.exists_mapM fun entry _ => ⟨_, by simp [enumValueAt, labelAt_list]; rfl⟩
  · exact ⟨_, rfl⟩

end HasPlainKeywords

/-- Whether an alternative is an empty one can be told of every map. -/
theorem exists_isEmptyBranch (model : Model) (members : Members) :
    ∃ isEmpty, isEmptyBranch model (.map members) = .ok isEmpty := by
  rw [isEmptyBranch]
  split <;> exact ⟨_, rfl⟩

/-- What takes a reference for its type and resolves any other part visits what the part does. -/
theorem reports_part {α : Type} {ofReference : Value → Outcome α} {ofModel : Model → Outcome α}
    (handled : IsHandled part) (name : Value)
    (typed : ∀ ref, Reports (ofReference (.text ref)) (· = ref)) (kept : ∀ model, ∃ a, ofModel model = .ok a) :
    Reports (do if ← part.mentions "$ref" then ofReference (← part.require "$ref") else ofModel (← resolve name part))
      (Visits part) := by
  obtain ⟨members, rfl, plain⟩ := handled.shaped.exists_members
  cases known : members.get? "$ref" with
  | some target =>
    obtain ⟨ref, rfl⟩ := plain.reference target known
    have mentioned : (Value.map members).mentions "$ref" = .ok true := by simp [Value.mentions, Members.has, known]
    refine .after mentioned (.after (Value.require_eq_ok.mpr ⟨members, rfl, known⟩) ?_)
    exact (typed ref).congr fun other => visits_of_reference known
  | none =>
    have mentioned : (Value.map members).mentions "$ref" = .ok false := by simp [Value.mentions, Members.has, known]
    exact .after mentioned ((handled.reports name).bind_ok fun model _ => kept model)

/-- A property visits what its schema does. -/
theorem reports_property (handled : IsHandled part) (required : List Value) (key : Scalar) :
    Reports (property resolve required key part) (Visits part) := by
  obtain ⟨members, rfl, -⟩ := handled.shaped.exists_members
  refine reports_part handled (.scalar key) (fun ref => ?_) fun model => ⟨_, rfl⟩
  exact (reports_reference ref .unknown).bind_ok fun model _ => ⟨_, rfl⟩

/-- Properties with texts for their keys can be added to any model. -/
theorem exists_withProperties (plain : HasPlainKeywords members) {models : List Model}
    (made : properties resolve members = .ok models) (model : Model) (owner : Value) :
    ∃ m, withProperties model owner models = .ok m := by
  obtain ⟨required, each⟩ := properties_eq_ok made
  suffices found : ∃ enums, models.mapM (propertyEnums owner) = .ok enums by
    obtain ⟨enums, found⟩ := found
    exact ⟨_, withProperties_eq_ok.mpr ⟨enums, found, rfl⟩⟩
  refine Outcome.exists_mapM fun m mem => ?_
  obtain ⟨entry, inside, own⟩ := Outcome.exists_related
    (R := fun m (entry : Scalar × Value) => property resolve required entry.1 entry.2 = .ok m) each.flip mem
  obtain ⟨_, _, -, -, rfl⟩ := property_eq_ok own
  obtain ⟨s, text⟩ := plain.propertyNames entry inside
  -- Only a property that is an enum is asked for its name, to name the enum by it.
  rw [propertyEnums]
  split
  · rw [text]
    exact ⟨_, rfl⟩
  · exact ⟨_, rfl⟩

/-- The properties visit what their schemas do. -/
theorem reports_properties (plain : HasPlainKeywords members)
    (handled : ∀ entry ∈ declaredProperties members, IsHandled entry.2) :
    Reports (properties resolve members) fun ref => ∃ entry ∈ declaredProperties members, Visits entry.2 ref := by
  obtain ⟨required, listed⟩ := plain.exists_required
  refine .after listed (.after plain.members_properties ?_)
  exact .mapM fun entry mem => reports_property (handled entry mem) required entry.1

/-- The alternatives visit what those of them do that allow more than null. -/
theorem reports_branches {parts : List Value} (handled : ∀ part ∈ parts, IsHandled part) :
    Reports (branches resolve parts) fun ref => ∃ part ∈ parts, isNullTyped part = false ∧ Visits part ref := by
  induction parts with
  | nil => exact (Reports.of_ok rfl).congr (by simp)
  | cons part rest ih =>
    obtain ⟨own, later⟩ := List.forall_mem_cons.mp handled
    have others := ih later
    obtain ⟨members, rfl, -⟩ := own.shaped.exists_members
    refine .after (isNullBranch_map members) ?_
    -- An alternative of null is passed without being resolved.
    cases null : isNullTyped (.map members) with
    | true => exact (others.bind_ok fun found _ => ⟨_, rfl⟩).congr fun ref => by simp [null]
    | false =>
      refine (Reports.bind (own.reports (.text "")) fun model _ =>
        (?_ : Reports _ fun ref => ∃ part ∈ rest, isNullTyped part = false ∧ Visits part ref)).congr
          fun ref => by simp [null]
      obtain ⟨isEmpty, told⟩ := exists_isEmptyBranch model members
      exact .after told (others.bind_ok fun found _ => ⟨_, rfl⟩)

/-- A composition visits what its alternatives and the properties beside them do. -/
theorem reports_composition (plain : HasPlainKeywords members)
    (handled : ∀ entry ∈ declaredProperties members, IsHandled entry.2) {parts : List Value}
    (alternatives : ∀ part ∈ parts, IsHandled part) (kind : Composition) (common : Model) :
    Reports (composition resolve kind (.list parts) members common) fun ref =>
      (∃ part ∈ parts, isNullTyped part = false ∧ Visits part ref) ∨
        ∃ entry ∈ declaredProperties members, Visits entry.2 ref := by
  refine .after (x := (Value.list parts).elements) rfl ?_
  refine (reports_branches alternatives).bind fun found _ => ?_
  dsimp only
  split
  · refine (reports_properties plain handled).bind_ok fun models made => ?_
    obtain ⟨shared, added⟩ := exists_withProperties plain made
      { variant := .interface, name := .text "properties", isRequired := true } common.name
    exact ⟨_, Outcome.bind_eq_ok.mpr ⟨shared, added, rfl⟩⟩
  · next absent => exact (Reports.of_ok rfl).congr (by simp [declaredProperties_of_falsy (by simpa using absent)])

/-- Further members visit what their schema does, if they have one. -/
theorem reports_additional (handled : ∀ schema, additionalSchema? members = some schema → IsHandled schema) :
    Reports (additional resolve members) fun ref =>
      ∃ schema, additionalSchema? members = some schema ∧ Visits schema ref := by
  rw [additional]
  simp only [additionalSchema?] at handled ⊢
  generalize members.get "additionalProperties" = given at *
  -- Only a map that is not empty says anything.
  cases given with
  | map entries =>
    cases entries with
    | nil => exact (Reports.of_ok rfl).congr (by simp)
    | cons first rest =>
      obtain ⟨_, same, plain⟩ := (handled _ rfl).shaped.exists_members
      cases same
      cases known : Members.get? (first :: rest) "$ref" with
      | some target =>
        obtain ⟨ref, rfl⟩ := plain.reference target known
        simp only [known]
        exact (reports_reference ref .unknown).congr fun other => by simpa using visits_of_reference known
      | none =>
        simp only [known]
        exact ((handled _ rfl).reports (.text "")).congr fun ref => by simp
  | _ => exact (Reports.of_ok rfl).congr (by simp)

/-- A dictionary visits what its further members do. -/
theorem reports_dictionary (handled : ∀ schema, additionalSchema? members = some schema → IsHandled schema)
    (common : Model) :
    Reports (dictionary resolve members common) fun ref =>
      ∃ schema, additionalSchema? members = some schema ∧ Visits schema ref :=
  (reports_additional handled).bind_ok fun _ _ => ⟨_, rfl⟩

/-- An object visits what its properties and its further members do. -/
theorem reports_interface (plain : HasPlainKeywords members)
    (handled : ∀ entry ∈ declaredProperties members, IsHandled entry.2)
    (further : ∀ schema, additionalSchema? members = some schema → IsHandled schema) (common : Model) :
    Reports (interface resolve members common) fun ref =>
      (∃ entry ∈ declaredProperties members, Visits entry.2 ref) ∨
        ∃ schema, additionalSchema? members = some schema ∧ Visits schema ref := by
  refine (reports_properties plain handled).bind fun models made => ?_
  obtain ⟨m, added⟩ := exists_withProperties plain made { common with variant := .interface } common.name
  refine .after added ?_
  split
  · exact (reports_additional further).bind_ok fun _ _ => ⟨_, rfl⟩
  · next absent => exact (Reports.of_ok rfl).congr (by simp [additionalSchema?_of_falsy (by simpa using absent)])

/-- A list visits what its items do. -/
theorem reports_array (handled : IsHandled part) (common : Model) :
    Reports (array resolve part common) (Visits part) := by
  refine reports_part handled (.text "") (fun ref => ?_) fun link => ⟨_, rfl⟩
  exact (reports_resolveType ref).bind_ok fun type _ => ⟨_, rfl⟩

/-- Every schema of the right shape is resolved, unless an unsupported reference is met. -/
theorem WellShaped.isHandled (shaped : WellShaped schema) : IsHandled schema := by
  -- Each form has a lemma of its own that asks for its parts, and the parts are those of the induction.
  induction shaped with
  | @intro members plain items alternatives properties further itemsMet alternativesMet propertiesMet furtherMet =>
    refine ⟨.intro plain items alternatives properties further, fun name => ?_⟩
    rw [resolve_eq]
    refine .congr ?_ fun ref => visits_iff
    cases form : Form.of members with
    | reference target =>
      obtain ⟨ref, rfl⟩ := plain.reference target (Form.of_eq_reference_iff.mp form)
      exact (reports_reference ref _).congr fun other => by simp [eq_comm]
    | enumeration =>
      obtain ⟨enum, found⟩ := plain.exists_enumValues
      exact .of_ok (Outcome.map_eq_ok.mpr ⟨enum, found, rfl⟩)
    | array part =>
      obtain ⟨rfl, truthy⟩ := Form.eq_of_array form
      exact reports_array (itemsMet truthy) _
    | composition kind listed =>
      obtain ⟨keyword, known, rfl, truthy⟩ := Form.eq_of_composition form
      obtain ⟨parts, given⟩ := plain.alternatives _ known truthy
      have met := reports_composition plain propertiesMet (alternativesMet _ known parts given) kind
        (described name members)
      rw [Form.model, given]
      exact met.congr fun ref => by simp
    | interface => exact reports_interface plain propertiesMet furtherMet _
    | dictionary => exact reports_dictionary furtherMet _
    | constant value => exact .of_ok rfl
    | token type =>
      obtain ⟨m, made⟩ := exists_token (plain.type type (Form.get?_of_token form)) (members.get "format")
        (described name members)
      exact .of_ok made
    | anything => exact .of_ok rfl

namespace WellShaped

/-- A reference is of the right shape. -/
theorem ofReference (ref : String) : WellShaped (.map [(.text "$ref", .text ref)]) := by
  refine .intro ⟨?_, ?_, ?_, ?_, ?_, ?_, ?_⟩ ?_ ?_ ?_ ?_ <;>
    simp [Members.get, Members.get?_cons_text, Members.get?_nil, compositions, declaredProperties, additionalSchema?,
      Value.truthy, Scalar.truthy]

/-- A list of something is of the right shape if its items are. -/
theorem ofItems {token : String} (plain : '#' ∉ token.toList) (items : WellShaped part) :
    WellShaped (.map [(.text "type", .text token), (.text "items", part)]) := by
  refine .intro ⟨?_, ?_, ?_, ?_, ?_, ?_, ?_⟩ ?_ ?_ ?_ ?_ <;>
    simp [Members.get, Members.get?_cons_text, Members.get?_nil, compositions, declaredProperties, additionalSchema?,
      Value.truthy, Scalar.truthy, IsTypeToken.single plain, items]

/-- A union is of the right shape if its alternatives are. -/
theorem ofAlternatives {parts : List Value} (alternatives : ∀ part ∈ parts, WellShaped part) :
    WellShaped (.map [(.text "oneOf", .list parts)]) := by
  refine .intro ⟨?_, ?_, ?_, ?_, ?_, ?_, ?_⟩ ?_ ?_ ?_ ?_ <;>
    simp [Members.get, Members.get?_cons_text, Members.get?_nil, compositions, declaredProperties, additionalSchema?,
      Value.truthy, Scalar.truthy]
  exact alternatives

/-- An object is of the right shape if its property is. -/
theorem ofProperty {key : String} (property : WellShaped part) :
    WellShaped (.map [(.text "properties", .map [(.text key, part)])]) := by
  refine .intro ⟨?_, ?_, ?_, ?_, ?_, ?_, ?_⟩ ?_ ?_ ?_ ?_ <;>
    simp [Members.get, Members.get?_cons_text, Members.get?_nil, compositions, declaredProperties, additionalSchema?,
      Value.truthy, Scalar.truthy]
  exact property

end WellShaped

/--
Unsupported references are always reported, and nothing else can go wrong.

A schema of the right shape is refused exactly if it visits a reference that has a number sign and, once it is
trimmed, begins with none of the known places.
The error names such a reference, and any other schema of the right shape has a model.
-/
theorem model_refused_iff (shaped : WellShaped schema) (isDefinition : Bool) (name default : Value) :
    ((∃ text, model schema isDefinition name default = .error (.unsupportedReference text)) ↔
        ∃ ref, Visits schema ref ∧ IsUnsupported ref) ∧
      ((¬ ∃ ref, Visits schema ref ∧ IsUnsupported ref) → ∃ m, model schema isDefinition name default = .ok m) ∧
      ∀ e, model schema isDefinition name default = .error e →
        ∃ ref, Visits schema ref ∧ IsUnsupported ref ∧ e = refusal ref := by
  obtain ⟨members, rfl, -⟩ := shaped.exists_members
  -- A schema is named and given a default once it is resolved, and neither can fail.
  have reports : Reports (model (.map members) isDefinition name default) (Visits (.map members)) :=
    (shaped.isHandled.reports name).bind_ok fun _ _ => ⟨_, rfl⟩
  exact ⟨reports.refused_iff, reports.exists_ok, reports.refused⟩

/-- A reference deep inside a schema, refused or not, and one that is in no known place but is never visited. -/
theorem model_refused_iff_nested :
    let list (token ref : String) : Value :=
      .map [(.text "type", .text token), (.text "items", .map [(.text "$ref", .text ref)])]
    let union (ref : String) : Value := .map [(.text "oneOf", .list [list "null" "#/paths/none", list "array" ref])]
    let schema (ref : String) : Value := .map [(.text "properties", .map [(.text "pets", union ref)])]
    (∀ ref, WellShaped (schema ref)) ∧
      model (schema " pets.yaml#/Pet") true "Owner" .null = .error (.unsupportedReference "pets.yaml#/Pet") ∧
      ∃ m, model (schema "#/definitions/Pet") true "Owner" .null = .ok m := by
  intro list union schema
  have shaped (ref : String) : WellShaped (schema ref) := by
    refine .ofProperty (.ofAlternatives fun part mem => ?_)
    obtain rfl | rfl := List.mem_pair.mp mem
    · exact .ofItems (by decide) (.ofReference _)
    · exact .ofItems (by decide) (.ofReference _)
  have visits (ref other : String) : Visits (schema ref) other ↔ other = ref := by
    -- The property is a union, of which only the second alternative is looked at.
    have items : Visits (list "array" ref) other ↔ other = ref := visits_iff.trans (visits_of_reference rfl)
    have alternatives : Visits (union ref) other ↔ Visits (list "array" ref) other := by
      refine visits_iff.trans ⟨?_, fun inside => .inl ⟨_, rfl, _, by simp, rfl, inside⟩⟩
      rintro (⟨_, ⟨⟩, part, mem, restricts, inside⟩ | ⟨entry, mem, -⟩)
      · obtain rfl | rfl := List.mem_pair.mp mem
        · cases restricts
        · exact inside
      · cases mem
    refine visits_iff.trans ⟨?_, fun same => .inl ⟨_, List.mem_cons_self, alternatives.mpr (items.mpr same)⟩⟩
    rintro (⟨entry, mem, inside⟩ | ⟨_, given, -⟩)
    · obtain rfl := List.mem_singleton.mp mem
      exact items.mp (alternatives.mp inside)
    · cases given
  refine ⟨shaped, ?_, ?_⟩
  · obtain ⟨text, failed⟩ := (model_refused_iff (shaped " pets.yaml#/Pet") true "Owner" .null).1.mpr
      ⟨_, (visits _ _).mpr rfl, by decide⟩
    obtain ⟨ref, met, -, same⟩ := (model_refused_iff (shaped " pets.yaml#/Pet") true "Owner" .null).2.2 _ failed
    rw [failed, same, (visits _ _).mp met]
    rfl
  · refine (model_refused_iff (shaped "#/definitions/Pet") true "Owner" .null).2.1 ?_
    rintro ⟨ref, met, unsupported⟩
    rw [(visits _ _).mp met] at unsupported
    revert unsupported
    decide

end TypedClient.Schema
