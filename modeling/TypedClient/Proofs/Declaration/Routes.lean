import TypedClient.Client.Build
import TypedClient.Proofs.Declaration.Files
import TypedClient.Proofs.Value.Equality

/-! The types of routes: each route is a member under the name of its operation, and when all of these differ. -/

namespace TypedClient

/-- Two services have no routes of one name: no two of their operations that something is declared for share it. -/
def Service.RoutesApart (s t : Service) : Prop :=
  ∀ a ∈ s.operations, ∀ b ∈ t.operations,
    Route.isDeclared a = true → Route.isDeclared b = true → a.name ≠ b.name

instance : DecidableRel Service.RoutesApart := fun s t =>
  inferInstanceAs (Decidable (∀ a ∈ s.operations, ∀ b ∈ t.operations, _))

namespace Route

variable {operations : List Operation} {services : List Service} {declarations : List Declaration}

/-- The routes are the members of one type, in the order of the operations that something is declared for. -/
theorem declarations_eq_ok (made : Route.declarations operations = .ok declarations) :
    ∃ members, declarations = [.typeAlias routesTypeName (.object members) [],
        .typeAlias controllersTypeName (.raw controllersType) []] ∧
      members.map Member.name = (operations.filter isDeclared).map fun operation => .text operation.name := by
  simp only [Route.declarations, Outcome.bind_eq_ok, Outcome.pure_eq_ok] at made
  obtain ⟨members, membersMade, rfl⟩ := made
  refine ⟨members, rfl, Outcome.map_of_mapM _ Member.name membersMade fun operation made written => ?_⟩
  -- What a route takes and replies makes no difference to its name.
  simp only [member, Outcome.bind_eq_ok, Outcome.pure_eq_ok] at written
  obtain ⟨sections, -, rfl⟩ := written
  rfl

/-- Services that tell their own operations apart have routes of different names exactly if no two of them have
routes of one name. -/
theorem nodup_names_iff (unique : ∀ service ∈ services, (service.operations.map Operation.name).Nodup) :
    (((services.flatMap (·.operations)).filter isDeclared).map Operation.name).Nodup ↔
      services.Pairwise Service.RoutesApart := by
  have each : ∀ service ∈ services,
      (service.operations.filter isDeclared).Pairwise fun a b => a.name ≠ b.name := fun service mem =>
    (List.pairwise_map.mp (unique service mem)).filter isDeclared
  rw [List.filter_flatMap, List.Nodup, List.pairwise_map, List.pairwise_flatMap, and_iff_right each]
  refine iff_of_eq (congrArg (fun apart => List.Pairwise apart services) ?_)
  -- Both sides ask the same of two services, the second one of all operations.
  funext s t
  simp only [Service.RoutesApart, List.mem_filter, and_imp, eq_iff_iff]
  exact ⟨fun apart a mem b also first second => apart a mem first b also second,
    fun apart a mem first b also second => apart a mem b also first second⟩

end Route

namespace Client

variable {client : Client} {config : Config}

/-- The routes of all services are the members of one type, under the names of their operations. -/
theorem exists_routesType (fastify : config.client = .fastify) (some : client.services ≠ []) {types : OutputFile}
    (made : client.typesFile config = .ok types) :
    ∃ models members,
      types.declarations = models ++ [.typeAlias routesTypeName (.object members) [],
        .typeAlias controllersTypeName (.raw Route.controllersType) []] ∧
      members.map Member.name
        = (client.operations.filter Route.isDeclared).map fun operation => .text operation.name := by
  obtain ⟨-, models, routes, -, routesMade, held⟩ := typesFile_eq_ok made
  rw [operationDeclarations, if_neg (by simpa using some), if_pos fastify] at routesMade
  obtain ⟨members, rfl, names⟩ := Route.declarations_eq_ok routesMade
  exact ⟨models, members, held, names⟩

/-- If each service tells its own operations apart, the members of the type of all routes have different names exactly
if no route of one service has the name of a route of another one. -/
theorem routeNames_iff_apart (fastify : config.client = .fastify) (some : client.services ≠ [])
    (unique : ∀ service ∈ client.services, (service.operations.map Operation.name).Nodup)
    {types : OutputFile} (made : client.typesFile config = .ok types) :
    ∃ models members,
      types.declarations = models ++ [.typeAlias routesTypeName (.object members) [],
        .typeAlias controllersTypeName (.raw Route.controllersType) []] ∧
      members.map Member.name
        = (client.operations.filter Route.isDeclared).map (fun operation => .text operation.name) ∧
      ((members.map Member.name).Nodup ↔ client.services.Pairwise Service.RoutesApart) := by
  obtain ⟨models, members, held, names⟩ := exists_routesType fastify some made
  refine ⟨models, members, held, names, ?_⟩
  -- As texts, names are as different as they are as names.
  have asTexts : (members.map Member.name).Nodup ↔
      ((client.operations.filter Route.isDeclared).map Operation.name).Nodup := by
    rw [names, List.Nodup, List.Nodup, List.pairwise_map, List.pairwise_map]
    simp
  rw [asTexts, operations, Route.nodup_names_iff unique]

/-- Two services with a route each, of different names. -/
theorem routeNames_iff_apart_two :
    let route (tag id : String) : Value := .map [(.text "operationId", .text id), (.text "tags", .list [.text tag]),
      (.text "responses", .map [(.text "200", .map [(.text "description", "ok")])])]
    let document : Value := .map [(.text "swagger", "2.0"), (.text "paths", .map [
      (.text "/cats", .map [(.text "get", route "cats" "listCats")]),
      (.text "/dogs", .map [(.text "get", route "dogs" "listDogs")])])]
    let config : Config := { client := .fastify }
    ∃ client types models members, ofDocument document config = .ok client ∧ config.client = .fastify ∧
      client.services.map Service.name = ["Cats", "Dogs"] ∧ client.services ≠ [] ∧
      (∀ service ∈ client.services, (service.operations.map Operation.name).Nodup) ∧
      client.typesFile config = .ok types ∧
      types.declarations = models ++ [.typeAlias routesTypeName (.object members) [],
        .typeAlias controllersTypeName (.raw Route.controllersType) []] ∧
      (members.map Member.name).Nodup := by
  intro route document config
  obtain ⟨client, built, seen⟩ := Outcome.exists_of_any (x := ofDocument document config)
    (p := fun client => (client.typesFile config).toOption.any (fun _ => true) &&
      client.services.map Service.name == ["Cats", "Dogs"] &&
        decide (∀ service ∈ client.services, (service.operations.map Operation.name).Nodup) &&
          decide (client.services.Pairwise Service.RoutesApart))
    (by decide +kernel)
  simp only [Bool.and_eq_true, beq_iff_eq, decide_eq_true_iff] at seen
  obtain ⟨⟨⟨written, services⟩, unique⟩, apart⟩ := seen
  obtain ⟨types, made, -⟩ := Outcome.exists_of_any written
  have some : client.services ≠ [] := by
    rintro none
    simp [none] at services
  obtain ⟨models, members, held, -, names⟩ := routeNames_iff_apart rfl some unique made
  exact ⟨client, types, models, members, built, rfl, services, some, unique, made, held, names.mpr apart⟩

/-- An operation with two tags is a route of both services, under one name. -/
theorem not_nodup_routeNames_tags :
    let document : Value := .map [(.text "swagger", "2.0"), (.text "paths", .map [
      (.text "/pets", .map [(.text "get", .map [
        (.text "operationId", "listPets"), (.text "tags", .list ["cats", "dogs"]),
        (.text "responses", .map [(.text "200", .map [(.text "description", "ok")])])])])])]
    let config : Config := { client := .fastify }
    ∃ client types a b comment, ofDocument document config = .ok client ∧
      (∀ service ∈ client.services, (service.operations.map Operation.name).Nodup) ∧
      client.typesFile config = .ok types ∧
      .typeAlias routesTypeName (.object [a, b]) comment ∈ types.declarations ∧
      a.name = .text "listPets" ∧ b.name = .text "listPets" := by
  intro document config
  obtain ⟨client, built, seen⟩ := Outcome.exists_of_any (x := ofDocument document config)
    (p := fun client => (client.typesFile config).toOption.any (fun _ => true) &&
      decide (∀ service ∈ client.services, (service.operations.map Operation.name).Nodup) &&
        (client.operations.filter Route.isDeclared).map Operation.name == ["listPets", "listPets"])
    (by decide +kernel)
  simp only [Bool.and_eq_true, beq_iff_eq, decide_eq_true_iff] at seen
  obtain ⟨⟨written, unique⟩, twice⟩ := seen
  obtain ⟨types, made, -⟩ := Outcome.exists_of_any written
  have some : client.services ≠ [] := by
    intro none
    simp [operations, none] at twice
  obtain ⟨models, members, held, names⟩ := exists_routesType rfl some made
  have named : members.map Member.name = [.text "listPets", .text "listPets"] := by
    have texts := congrArg (List.map Value.text) twice
    rw [List.map_map] at texts
    exact names.trans texts
  -- There are two members, since there are two names.
  obtain ⟨a, rest, rfl, first, named⟩ := List.map_eq_cons_iff.mp named
  obtain ⟨b, rest, rfl, second, named⟩ := List.map_eq_cons_iff.mp named
  obtain rfl := List.map_eq_nil_iff.mp named
  exact ⟨client, types, a, b, [], built, unique, made, by simp [held], first, second⟩

end Client

end TypedClient
