import TypedClient.Proofs.Client.EnumNames
import TypedClient.Proofs.Schema.Shape

/-! The models of a client: those of the schemas of its document, with exported names for their enums. -/

namespace TypedClient

namespace Model

/-- The model without an exported name of its own. -/
def unexported (m : Model) : Model :=
  { m with enumName := none }

/-- The model as it is before the enums of a client are named. -/
def unnamed (m : Model) : Model :=
  { m.unexported with enums := m.enums.map unexported }

end Model

namespace EnumRegistry

/-- Naming enums changes nothing but their exported names. -/
theorem unexported_nameEnums (registry : EnumRegistry) (enums : List Model) :
    (nameEnums registry enums).1.map Model.unexported = enums.map Model.unexported := by
  induction enums generalizing registry with
  | nil => rfl
  | cons e rest ih => exact congrArg (e.unexported :: ·) (ih _)

/-- Naming the enums of models changes nothing but exported names. -/
theorem unnamed_nameModels (registry : EnumRegistry) (models : List Model) :
    (nameModels registry models).1.map Model.unnamed = models.map Model.unnamed := by
  induction models generalizing registry with
  | nil => rfl
  | cons m rest ih =>
    have own : (nameModel registry m).1.unnamed = m.unnamed := by
      rw [nameModel_eq, Model.unnamed, Model.unnamed, unexported_nameEnums]
      cases m.isEnum <;> rfl
    rw [nameModels, List.map_cons, List.map_cons, own, ih]

/-- Models behind others are named with the registry that these have left. -/
theorem nameModels_append (registry : EnumRegistry) (models more : List Model) :
    nameModels registry (models ++ more) =
      ((nameModels registry models).1 ++ (nameModels (nameModels registry models).2 more).1,
        (nameModels (nameModels registry models).2 more).2) := by
  induction models generalizing registry with
  | nil => rfl
  | cons m rest ih =>
    -- The rest starts with the registry that the first model has left, on both sides.
    simp only [List.cons_append, nameModels, ih]

/-- Names are only ever added to a registry. -/
theorem prefix_nameModels (registry : EnumRegistry) (models : List Model) :
    registry <+: (nameModels registry models).2 :=
  ⟨_, (named_nameModels registry models).result_eq.symm⟩

end EnumRegistry

namespace Schema

/-- A document declares a schema under a name: as a named schema, or as the schema of a named parameter. -/
inductive Declares (document : Value) : String → Value → Prop
  /-- A named schema has the name that its key stands for as a type. -/
  | schema {entries : Members} {key : Scalar} {schema : Value} {type : ResolvedType}
      (listed : Document.schemas document = .ok (.map entries)) (mem : (key, schema) ∈ entries)
      (typed : resolveType (.scalar key) = .ok type) : Declares document type.base schema
  /-- The schema of a parameter has a name made from its key. -/
  | parameter {entries members : Members} {key : Scalar} {text : String} {parameter : Value}
      {type : ResolvedType} (listed : Document.componentParameters document = .ok (.map entries))
      (mem : (key, parameter) ∈ entries) (isText : (Value.scalar key).asText = .ok text)
      (target : Document.dereference document parameter = .ok (.map members))
      (typed : resolveType (.text ("Parameter" ++ pascalCase text)) = .ok type) :
      Declares document type.base (members.get "schema")

/-- Every model of a document is that of a schema that the document declares, with what is said where it does. -/
theorem exists_declared {document : Value} {ms : List Model} {m : Model}
    (built : models document = .ok ms) (mem : m ∈ ms) :
    ∃ (name : String) (schema : Value) (bare : Model) (isDefinition : Bool) (default description : Value),
      Declares document name schema ∧ resolve (.text name) schema = .ok bare ∧
        m = { bare with isDefinition, default, description } := by
  simp only [models, Outcome.bind_eq_ok, Outcome.pure_eq_ok, Value.members_eq_ok] at built
  obtain ⟨_, schemas, entries, rfl, ofSchemas, each, _, sections, parameters, rfl, ofParameters, others, rfl⟩ :=
    built
  -- The models of the schemas come first, and then those of the parameters that have a schema.
  rcases List.mem_append.mp mem with own | ofParameter
  · obtain ⟨entry, listed, made⟩ := Outcome.exists_item each own
    obtain ⟨type, typed, made⟩ := Outcome.bind_eq_ok.mp made
    obtain ⟨bare, default, resolved, rfl⟩ := model_eq_ok made
    exact ⟨_, _, bare, true, default, bare.description, .schema schemas listed typed, resolved, rfl⟩
  · obtain ⟨found, inside, rfl⟩ := List.mem_filterMap.mp ofParameter
    obtain ⟨entry, listed, made⟩ := Outcome.exists_item others inside
    simp only [parameterModel, Outcome.bind_eq_ok, Value.members_eq_ok] at made
    obtain ⟨_, target, members, rfl, made⟩ := made
    -- A parameter without a schema has no model.
    split at made
    · cases made
    · simp only [Outcome.bind_eq_ok, Outcome.pure_eq_ok] at made
      obtain ⟨text, isText, type, typed, declared, declaredMade, same⟩ := made
      cases same
      obtain ⟨bare, default, resolved, rfl⟩ := model_eq_ok declaredMade
      exact ⟨_, _, bare, true, default, _, .parameter sections listed isText target typed, resolved, rfl⟩

end Schema

namespace Client

variable {document : Value} {client : Client} {config : Config} {m e : Model}

/-- Every model of a client is that of a schema, but for what the document says where it declares it and
for the exported names. -/
theorem exists_resolved_of_mem_models (built : ofDocument document config = .ok client)
    (mem : m ∈ client.models) :
    ∃ name schema bare, Schema.resolve name schema = .ok bare ∧ m.variant = bare.variant ∧
      m.enum = bare.enum ∧ m.enums.map Model.unexported = bare.enums.map Model.unexported := by
  obtain ⟨models, found, modelsEq, -⟩ := ofDocument_eq_ok built
  obtain ⟨source, inside, same⟩ : ∃ source ∈ models, source.unnamed = m.unnamed := by
    rw [← List.mem_map, ← EnumRegistry.unnamed_nameModels [] models, ← modelsEq]
    exact List.mem_map_of_mem mem
  obtain ⟨name, schema, bare, _, _, _, -, resolved, rfl⟩ := Schema.exists_declared found inside
  -- Neither of the two steps from the schema to the client touches any of these.
  exact ⟨.text name, schema, bare, resolved, (congrArg Model.variant same).symm,
    (congrArg Model.enum same).symm, (congrArg Model.enums same).symm⟩

/-- All that is named as an enum is one. -/
theorem isEnum_of_mem_enums (built : ofDocument document config = .ok client)
    (mem : e ∈ client.enums) : e.isEnum = true := by
  obtain ⟨m, inside, mem⟩ := List.mem_flatMap.mp mem
  -- Of a model, it is the model itself that is named if it is an enum, and what stands inside it.
  rcases List.mem_append.mp mem with own | nested
  · split at own
    · next isEnum => rwa [List.mem_singleton.mp own]
    · cases own
  · -- What stands inside a model is an enum already in the schema.
    obtain ⟨_, schema, bare, resolved, -, -, same⟩ := exists_resolved_of_mem_models built inside
    obtain ⟨source, within, equal⟩ := List.mem_map.mp (same ▸ List.mem_map_of_mem nested)
    have isEnum := (Schema.allShaped_of_resolve resolved bare (.self bare)).enums source within
    have variant : source.variant = e.variant := (congrArg Model.variant equal :)
    rw [Model.isEnum, ← variant]
    exact isEnum.1

end Client

end TypedClient
