import TypedClient.Declaration.TypeExpr
import TypedClient.Proofs.Schema.Parts
import TypedClient.Proofs.Schema.TypeUse
import TypedClient.Proofs.Value.Display

/-! The enums that are declared beside a schema: each has a name to be declared under, and the values of a schema. -/

namespace TypedClient

/-- Every enum inside a model has a name. -/
def Model.NamesNested (m : Model) : Prop :=
  ∀ e ∈ m.enums, e.label ≠ ""

/-- The second model is the first one, which is an enum, under a name of its own. -/
structure Model.LiftedAs (m e : Model) : Prop where
  /-- Only an enum is declared beside what it is inside of. -/
  isEnum : m.isEnum = true
  /-- Nothing but the name is another one. -/
  renamed : ∃ name, e = { m with name }
  /-- There is a name to declare it under. -/
  named : e.label ≠ ""

/-- An enum inside a model has a name, and the values that some schema lists. -/
structure Model.IsNestedEnum (e : Model) : Prop where
  named : e.label ≠ ""
  listed : ∃ members, Schema.enumValues members = .ok e.enum

/-- All that a model has to be declared beside it are such enums: those inside it, and itself if it is an enum. -/
def Model.NestsEnums (m : Model) : Prop :=
  ∀ e, e ∈ m.enums ∨ m.LiftedAs e → e.IsNestedEnum

/-- A model that can be declared as a whole, the enums inside it included. -/
structure Model.IsDeclarable (m : Model) : Prop where
  /-- The model has a name. -/
  named : m.label ≠ ""
  /-- Every enum inside it has one too. -/
  nested : m.NamesNested
  /-- Enums are only inside of what declares those inside it. -/
  within : m.enums ≠ [] → m.variant = .interface ∨ ∃ kind, m.variant = .composition kind

namespace Schema

variable {inner : Resolver} {members : Members} {m : Model}

/-- The enums of alternatives are those that these bring with them, and the alternatives themselves. -/
theorem mem_branchEnums {name : Value} {count : Nat} {models : List Model} {e : Model}
    (mem : e ∈ branchEnums name count models) : ∃ m ∈ models, e ∈ m.enums ∨ m.LiftedAs e := by
  -- The enums that came before are only counted, so their number is left open.
  induction models generalizing count with
  | nil => cases mem
  | cons m rest ih =>
    have later {count : Nat} (mem : e ∈ branchEnums name count rest) :
        ∃ part ∈ m :: rest, e ∈ part.enums ∨ part.LiftedAs e := by
      obtain ⟨part, inside, origin⟩ := ih mem
      exact ⟨part, List.mem_cons_of_mem _ inside, origin⟩
    rw [branchEnums, Model.copies_eq, Model.copy_eq] at mem
    split at mem
    · next isNew =>
      rcases List.mem_append.mp mem with brought | mem
      · exact ⟨m, List.mem_cons_self, .inl brought⟩
      · rcases List.mem_cons.mp mem with rfl | mem
        · -- The name that the alternative gets has a fixed part.
          have isEnum : m.isEnum = true := (Bool.and_eq_true_iff.mp isNew).1
          exact ⟨m, List.mem_cons_self, .inr
            ⟨isEnum, ⟨_, rfl⟩, by simp [Model.label, branchEnumName]⟩⟩
        · exact later mem
    · rcases List.mem_append.mp mem with brought | mem
      · exact ⟨m, List.mem_cons_self, .inl brought⟩
      · exact later mem

/-- The enums of a property are those that it brings with it, and at most the property itself. -/
theorem mem_propertyEnums {owner : Value} {property : Model} {enums : List Model} {e : Model}
    (made : propertyEnums owner property = .ok enums) (mem : e ∈ enums) :
    e ∈ property.enums ∨ property.LiftedAs e := by
  simp only [propertyEnums, Model.copies_eq, Model.copy_eq] at made
  split at made
  · next isNew =>
    obtain ⟨own, -, made⟩ := Outcome.bind_eq_ok.mp made
    rw [← Outcome.pure_eq_ok.mp made] at mem
    rcases List.mem_append.mp mem with brought | new
    · exact .inl brought
    · -- The name begins with that of the owner.
      obtain ⟨isEnum, truthy⟩ := Bool.and_eq_true_iff.mp isNew
      rw [List.mem_singleton.mp new]
      exact .inr ⟨isEnum, ⟨_, rfl⟩, by simp [Model.label, Value.display_ne_empty truthy]⟩
  · rw [← Outcome.pure_eq_ok.mp made] at mem
    exact .inl mem

/-- What is said beside the type of a model makes no difference to the enums that it brings. -/
theorem nestsEnums_of_same {other : Model} (held : m.NestsEnums) (variant : other.variant = m.variant)
    (enum : other.enum = m.enum) (enums : other.enums = m.enums) : other.NestsEnums := by
  rintro e (mem | ⟨isEnum, ⟨name, rfl⟩, named⟩)
  · exact held e (.inl (enums ▸ mem))
  · have lifted : m.LiftedAs { m with name } :=
      ⟨by rwa [Model.isEnum, ← variant], ⟨name, rfl⟩, named⟩
    have listed := (held _ (.inr lifted)).listed
    exact ⟨named, by rwa [enum]⟩

/-- A model that is no enum and has none inside it brings none. -/
theorem nestsEnums_of_none (other : m.isEnum = false) (none : m.enums = []) : m.NestsEnums := by
  rintro e (mem | lifted)
  · simp [none] at mem
  · cases other.symm.trans lifted.isEnum

/-- The enums that properties bring to their owner are as those of the properties. -/
theorem isNestedEnum_of_withProperties {common : Model} {owner : Value} {models : List Model}
    (made : withProperties common owner models = .ok m) (none : common.enums = [])
    (known : ∀ property ∈ models, property.NestsEnums) : ∀ e ∈ m.enums, e.IsNestedEnum := by
  -- Each enum comes from one of the properties.
  obtain ⟨each, found, rfl⟩ := withProperties_eq_ok.mp made
  intro e mem
  simp only [none, List.nil_append] at mem
  obtain ⟨enums, inEach, mem⟩ := List.mem_flatten.mp mem
  obtain ⟨property, inside, made⟩ := Outcome.exists_item found inEach
  exact known property inside e (mem_propertyEnums made mem)

/-- The enums of declared properties are as they should be if those of their parts are. -/
theorem nestsEnums_of_properties {models : List Model} (made : properties inner members = .ok models)
    (known : ∀ {name part m}, inner name part = .ok m → m.NestsEnums) :
    ∀ property ∈ models, property.NestsEnums := by
  obtain ⟨required, each⟩ := properties_eq_ok made
  intro property inside
  obtain ⟨entry, -, found⟩ := Outcome.exists_related each.flip inside
  -- What is said beside the type of a property does not concern the enums inside.
  obtain ⟨model, parts, -, resolved, rfl⟩ := property_eq_ok found
  have held : model.NestsEnums := by
    obtain ⟨_, ref, -, -, made⟩ | made := resolved
    · obtain ⟨type, -, rfl⟩ := reference_eq_ok.mp made
      exact nestsEnums_of_none rfl rfl
    · exact known made
  exact nestsEnums_of_same held rfl rfl rfl

/-- The enums inside a composition are as they should be if those of its parts are. -/
theorem isNestedEnum_of_composition {kind : Composition} {alternatives : Value} {common : Model}
    (made : composition inner kind alternatives members common = .ok m)
    (faithful : ∀ {name part m}, inner name part = .ok m → resolve name part = .ok m)
    (known : ∀ {name part m}, inner name part = .ok m → m.NestsEnums) : ∀ e ∈ m.enums, e.IsNestedEnum := by
  obtain ⟨parts, models, hasNull, listed, found, beside⟩ := composition_eq_ok made
  have each := (branches_eq_ok faithful found).1
  -- An alternative brings the enums inside it, and itself if it is one.
  have ofAlternatives : ∀ e ∈ branchEnums common.name 0 models, e.IsNestedEnum := by
    intro e mem
    obtain ⟨model, inside, origin⟩ := mem_branchEnums mem
    obtain ⟨part, -, made⟩ := Outcome.exists_related each.flip inside
    exact known made e origin
  obtain ⟨-, rfl⟩ | ⟨-, declared, shared, declaredMade, sharedMade, rfl⟩ := beside
  · exact ofAlternatives
  · have ofShared := isNestedEnum_of_withProperties sharedMade rfl
      (nestsEnums_of_properties declaredMade known)
    intro e mem
    rw [enums_withShared] at mem
    exact (List.mem_append.mp mem).elim (ofAlternatives e) (ofShared e)

/-- The enums inside an object are as they should be if those of its properties are. -/
theorem isNestedEnum_of_interface {common : Model}
    (made : interface inner members common = .ok m) (none : common.enums = [])
    (known : ∀ {name part m}, inner name part = .ok m → m.NestsEnums) : ∀ e ∈ m.enums, e.IsNestedEnum := by
  obtain ⟨models, own, found, ownMade, beside⟩ := interface_eq_ok made
  have ofOwn := isNestedEnum_of_withProperties ownMade none (nestsEnums_of_properties found known)
  -- The further members bring no enums with them.
  obtain ⟨-, rfl⟩ | ⟨-, index, -, rfl⟩ := beside <;> exact ofOwn

/-- Only objects and compositions have enums inside them. -/
theorem variant_of_enums_ne_nil {form : Form} {common : Model} (none : common.enums = [])
    (made : form.model inner members common = .ok m) (nested : m.enums ≠ []) :
    form = .interface ∨ ∃ kind alternatives, form = .composition kind alternatives := by
  -- All other forms leave the list of enums as it is before them.
  cases form with
  | interface => exact .inl rfl
  | composition kind alternatives => exact .inr ⟨kind, alternatives, rfl⟩
  | reference ref =>
    obtain ⟨type, -, rfl⟩ := reference_eq_ok.mp made
    exact absurd none nested
  | enumeration =>
    obtain ⟨enum, -, rfl⟩ := Outcome.map_eq_ok.mp made
    exact absurd none nested
  | array items =>
    obtain ⟨_, ref, type, -, -, -, rfl⟩ | ⟨link, -, rfl⟩ := array_eq_ok made <;>
      exact absurd none nested
  | dictionary =>
    obtain ⟨link, -, rfl⟩ := dictionary_eq_ok.mp made
    exact absurd none nested
  | constant value =>
    cases made
    exact absurd none nested
  | token type =>
    obtain ⟨resolved, -, rfl⟩ := token_eq_ok.mp made
    exact absurd none nested
  | anything =>
    cases made
    exact absurd none nested

/-- A schema whose model is an enum lists the values. -/
theorem enumValues_of_isEnum {name : Value}
    (made : (Form.of members).model inner members (described name members) = .ok m) (isEnum : m.isEnum = true) :
    Form.of members = .enumeration ∧ enumValues members = .ok m.enum := by
  have kind := (variant_and_name_of_model rfl made).1
  rw [Model.isEnum, kind] at isEnum
  -- No other form of schemas stands for an enum.
  cases form : Form.of members <;> rw [form] at made isEnum <;> try cases isEnum
  obtain ⟨enum, found, rfl⟩ := Outcome.map_eq_ok.mp made
  exact ⟨rfl, found⟩

/-- The enums that a resolved schema brings are as they should be. -/
theorem nestsEnums_of_resolve {name schema : Value} (resolved : resolve name schema = .ok m) : m.NestsEnums := by
  refine resolve_induction (P := fun _ _ m => m.NestsEnums) ?_ resolved
  intro name members inner m within made
  have known {name part m} (found : inner name part = .ok m) := (within found).2
  have none : (described name members).enums = [] := rfl
  rintro e (mem | ⟨isEnum, ⟨_, rfl⟩, named⟩)
  · -- Whatever has enums inside is an object or a composition.
    obtain form | ⟨kind, alternatives, form⟩ :=
      variant_of_enums_ne_nil none made (List.ne_nil_of_mem mem)
    · rw [form] at made
      exact isNestedEnum_of_interface made none known e mem
    · rw [form] at made
      exact isNestedEnum_of_composition made (fun inside => (within inside).1) known e mem
  · exact ⟨named, members, (enumValues_of_isEnum made isEnum).2⟩

/-- Every enum inside a resolved schema has a name. -/
theorem namesNested_of_resolve {name schema : Value} (resolved : resolve name schema = .ok m) :
    m.NamesNested :=
  fun e mem => (nestsEnums_of_resolve resolved e (.inl mem)).named

/-- Only models of objects and compositions have enums inside them. -/
theorem variant_of_resolve {name schema : Value} (resolved : resolve name schema = .ok m)
    (nested : m.enums ≠ []) : m.variant = .interface ∨ ∃ kind, m.variant = .composition kind := by
  obtain ⟨members, inner, -, made, -⟩ := resolve_eq_ok resolved
  have kind := (variant_and_name_of_model rfl made).1
  have none : (described name members).enums = [] := rfl
  obtain form | ⟨_, _, form⟩ := variant_of_enums_ne_nil none made nested
  · exact .inl (by rw [kind, form, Form.variant])
  · exact .inr ⟨_, by rw [kind, form, Form.variant]⟩

/-- A schema that is declared under a name can be declared as a whole. -/
theorem isDeclarable_of_declared {name : String} {schema : Value} (nonempty : name ≠ "")
    (made : declared name schema = .ok m) : m.IsDeclarable := by
  -- Whether a schema is declared, and its default, make no difference to names and enums.
  obtain ⟨bare, _, resolved, rfl⟩ := model_eq_ok made
  have named := name_of_resolve resolved
  have nested := namesNested_of_resolve resolved
  have within := variant_of_resolve resolved
  exact ⟨by simpa [Model.label, named] using nonempty, nested, within⟩

/-- A named parameter that has a schema can be declared as a whole. -/
theorem isDeclarable_of_parameterModel {document parameter : Value} {key : Scalar}
    (made : parameterModel document key parameter = .ok (some m)) : m.IsDeclarable := by
  simp only [parameterModel, Outcome.bind_eq_ok] at made
  obtain ⟨target, -, members, -, made⟩ := made
  split at made
  · cases made
  · simp only [Outcome.bind_eq_ok, Outcome.pure_eq_ok] at made
    obtain ⟨token, -, type, typed, bare, declared, same⟩ := made
    cases same
    -- Only the description is that of the parameter.
    have declarable := isDeclarable_of_declared (base_ne_empty_of_resolveType typed) declared
    exact ⟨declarable.named, declarable.nested, declarable.within⟩

/-- Every named schema and every named parameter of a document can be declared as a whole. -/
theorem isDeclarable_of_models {document : Value} {ms : List Model}
    (built : models document = .ok ms) : ∀ m ∈ ms, m.IsDeclarable := by
  simp only [models, Outcome.bind_eq_ok, Outcome.pure_eq_ok] at built
  obtain ⟨_, -, schemas, -, ofSchemas, each, _, -, parameters, -, ofParameters, others, rfl⟩ := built
  intro m mem
  -- Schemas and parameters are both declared under the head of a type.
  rcases List.mem_append.mp mem with schema | parameter
  · obtain ⟨entry, -, made⟩ := Outcome.exists_item each schema
    obtain ⟨type, typed, made⟩ := Outcome.bind_eq_ok.mp made
    exact isDeclarable_of_declared (base_ne_empty_of_resolveType typed) made
  · obtain ⟨found, inside, rfl⟩ := List.mem_filterMap.mp parameter
    obtain ⟨entry, -, made⟩ := Outcome.exists_item others inside
    exact isDeclarable_of_parameterModel made

end Schema

end TypedClient
