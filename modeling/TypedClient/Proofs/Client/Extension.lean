import TypedClient.Declaration.Files
import TypedClient.Proofs.Client.Models

/-! Schemas that are added to a document behind all others leave everything before them as it is. -/

namespace TypedClient

/-- No named parameter of the document has a schema, wherever its references lead. -/
def Document.ParametersBare (document : Value) : Prop :=
  ∀ parameters, componentParameters document = .ok (.map parameters) → ∀ entry ∈ parameters,
    ∀ members, dereference document entry.2 = .ok (.map members) →
      (Members.get members "schema").truthy = false

namespace Schema

variable {document : Value} {entries : Members} {ms : List Model}

/-- The models of the schemas come before those of the parameters. -/
theorem models_eq_ok (built : models document = .ok ms)
    (listed : Document.schemas document = .ok (.map entries)) :
    ∃ ofSchemas, entries.mapM (fun entry => schemaModel entry.1 entry.2) = .ok ofSchemas ∧
      ofSchemas <+: ms := by
  simp only [models, listed, Outcome.bind_eq_ok, Value.members_eq_ok, Outcome.pure_eq_ok] at built
  obtain ⟨_, same, _, named, ofSchemas, each, _, -, _, -, ofParameters, -, rfl⟩ := built
  cases same
  cases named
  exact ⟨ofSchemas, each, List.prefix_append _ _⟩

/-- A parameter without a schema has no model. -/
theorem parameterModel_of_bare (bare : Document.ParametersBare document) {parameters : Members}
    (listed : Document.componentParameters document = .ok (.map parameters)) {entry : Scalar × Value}
    (mem : entry ∈ parameters) {found : Option Model}
    (made : parameterModel document entry.1 entry.2 = .ok found) : found = none := by
  simp only [parameterModel, Outcome.bind_eq_ok, Value.members_eq_ok] at made
  obtain ⟨_, followed, members, rfl, made⟩ := made
  have absent := bare parameters listed entry mem members followed
  simp only [absent, Bool.not_false, if_true] at made
  exact (Outcome.pure_eq_ok.mp made).symm

/-- Where no parameter has a schema, all models are those of the schemas. -/
theorem models_of_bare (built : models document = .ok ms)
    (listed : Document.schemas document = .ok (.map entries)) (bare : Document.ParametersBare document) :
    entries.mapM (fun entry => schemaModel entry.1 entry.2) = .ok ms := by
  simp only [models, listed, Outcome.bind_eq_ok, Value.members_eq_ok, Outcome.pure_eq_ok] at built
  obtain ⟨_, same, _, named, ofSchemas, each, _, parametersListed, parameters, rfl, ofParameters, others,
    rfl⟩ := built
  cases same
  cases named
  -- Every parameter is gone through, but none of them leaves a model.
  have none : ofParameters.filterMap id = [] := by
    refine List.filterMap_eq_nil_iff.mpr fun found mem => ?_
    obtain ⟨entry, inside, made⟩ := Outcome.exists_item others mem
    exact parameterModel_of_bare bare parametersListed inside made
  rw [each, none, List.append_nil]

end Schema

namespace Client

/-- What there is for the models of the second client comes first in what there is for those of the first
one, unchanged. -/
structure Extends (larger client : Client) : Prop where
  models : client.models <+: larger.models
  /-- The enums are in their places, each with the exported name that it has or lacks. -/
  enums : client.enums <+: larger.enums
  enumNames : client.enumNames <+: larger.enumNames
  declarations : ∀ config ds, larger.modelDeclarations config = .ok ds →
    ∃ earlier, client.modelDeclarations config = .ok earlier ∧ earlier <+: ds
  /-- What keeps the models from being declared keeps all of them from it. -/
  failures : ∀ config e, client.modelDeclarations config = .error e →
    larger.modelDeclarations config = .error e

variable {document extended : Value} {client larger : Client} {config : Config}

/-- A client with further models declares the others as before. -/
theorem modelDeclarations_append {more : List Model} (split : larger.models = client.models ++ more)
    (config : Config) :
    larger.modelDeclarations config = do
      let earlier ← client.modelDeclarations config
      let later ← more.mapM (Model.declarations config.enums)
      return earlier ++ later.flatten := by
  simp [modelDeclarations, split, List.mapM_append]

/-- Whatever models come behind those of a client, what there is for these is left as it is. -/
theorem extends_of_nameModels {models more : List Model}
    (named : client.models = (EnumRegistry.nameModels [] models).1)
    (registered : client.enumNames = (EnumRegistry.nameModels [] models).2)
    (namedMore : larger.models = (EnumRegistry.nameModels [] (models ++ more)).1)
    (registeredMore : larger.enumNames = (EnumRegistry.nameModels [] (models ++ more)).2) :
    larger.Extends client := by
  -- The registry is the only thing that naming passes on, and it is passed on to later models only.
  rw [EnumRegistry.nameModels_append, ← named, ← registered] at namedMore registeredMore
  have declared := modelDeclarations_append namedMore
  refine ⟨⟨_, namedMore.symm⟩, ?_, ?_, ?_, ?_⟩
  · rw [enums, enums, namedMore, List.flatMap_append]
    exact List.prefix_append _ _
  · rw [registeredMore]
    exact EnumRegistry.prefix_nameModels _ _
  · intro config ds made
    simp only [declared, Outcome.bind_eq_ok, Outcome.pure_eq_ok] at made
    obtain ⟨earlier, earlierMade, later, -, rfl⟩ := made
    exact ⟨earlier, earlierMade, List.prefix_append _ _⟩
  · intro config e failed
    rw [declared, failed]
    rfl

/--
Schemas that come last in a document leave everything for the earlier ones as it is.

Nothing else is asked of the second document, so it may differ in all other respects.
-/
theorem extends_of_schemas {schemas added : Members}
    (listed : Document.schemas document = .ok (.map schemas))
    (listedMore : Document.schemas extended = .ok (.map (schemas ++ added)))
    (bare : Document.ParametersBare document) (built : ofDocument document config = .ok client)
    (builtMore : ofDocument extended config = .ok larger) : larger.Extends client := by
  obtain ⟨models, found, named, registered⟩ := ofDocument_eq_ok built
  obtain ⟨_, foundMore, namedMore, registeredMore⟩ := ofDocument_eq_ok builtMore
  -- The models of the first document are those of the schemas that both have.
  obtain ⟨ofSchemas, each, ofParameters, rfl⟩ := Schema.models_eq_ok foundMore listedMore
  have own := Schema.models_of_bare found listed bare
  rw [List.mapM_append, own] at each
  simp only [Outcome.bind_eq_ok, Outcome.pure_eq_ok] at each
  obtain ⟨_, same, later, -, rfl⟩ := each
  cases same
  rw [List.append_assoc] at namedMore registeredMore
  exact extends_of_nameModels named registered namedMore registeredMore

/-- A further enum whose exported name an earlier one has, and named parameters without a schema. -/
theorem extends_of_schemas_collision :
    let enum (value : String) : Value := .map [(.text "enum", .list [.text value])]
    let parameters : Members := [
      (.text "limit", .map [(.text "name", "limit"), (.text "in", "query")]),
      (.text "page", .map [(.text "$ref", "#/components/parameters/limit")])]
    let document (schemas : Members) : Value := .map [(.text "openapi", "3.0.1"),
      (.text "components", .map [
        (.text "schemas", .map schemas), (.text "parameters", .map parameters)])]
    let schemas : Members := [(.text "pet_status", enum "a")]
    let added : Members := [(.text "PetStatus", enum "b")]
    Document.ParametersBare (document schemas) ∧
    ∃ client larger, ofDocument (document schemas) {} = .ok client ∧
      ofDocument (document (schemas ++ added)) {} = .ok larger ∧
      larger.enums.map Model.enumName = [some "PetStatus", none] ∧
      larger.Extends client := by
  intro enum parameters document schemas added
  have bare : Document.ParametersBare (document schemas) := by
    intro found listed entry mem members followed
    cases listed
    -- Both parameters lead to the one that is described without a schema.
    rcases List.mem_cons.mp mem with rfl | mem
    · cases followed
      rfl
    · rcases List.mem_cons.mp mem with rfl | mem
      · cases followed
        rfl
      · cases mem
  obtain ⟨client, built, -⟩ := Outcome.exists_of_any (x := ofDocument (document schemas) {})
    (p := fun _ => true) (by decide +kernel)
  obtain ⟨larger, builtMore, seen⟩ := Outcome.exists_of_any
    (x := ofDocument (document (schemas ++ added)) {})
    (p := fun larger =>
      larger.enums.map Model.enumName == [some "PetStatus", none])
    (by decide +kernel)
  exact ⟨bare, client, larger, built, builtMore, by simpa using seen,
    extends_of_schemas rfl rfl bare built builtMore⟩

end Client

end TypedClient
