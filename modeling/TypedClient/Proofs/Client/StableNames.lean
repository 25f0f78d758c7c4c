import TypedClient.Proofs.Client.Grouping

/-! Operations that come later leave the names of the earlier ones as they are. -/

namespace TypedClient

namespace Operation

variable {operations longer : List Operation} {seen : List String}

/-- Which methods are put behind names is settled by the operations up to each of them. -/
theorem begins_appendMethods (begins : operations <+: longer) :
    appendMethods seen operations <+: appendMethods seen longer := by
  obtain ⟨added, rfl⟩ := begins
  -- What has been seen grows on the way, and it grows in the same way for both lists.
  induction operations generalizing seen with
  | nil => exact List.nil_prefix
  | cons operation rest ih =>
    rw [List.cons_append, appendMethods, appendMethods]
    split <;> exact (List.prefix_cons_inj _).mpr ih

/-- Which numbers are put behind names is settled by the operations up to each of them. -/
theorem begins_appendCounts (begins : operations <+: longer) :
    appendCounts seen operations <+: appendCounts seen longer := by
  obtain ⟨added, rfl⟩ := begins
  induction operations generalizing seen with
  | nil => exact List.nil_prefix
  | cons operation rest ih => exact (List.prefix_cons_inj _).mpr ih

/-- Operations are told from each other in the same way if others follow. -/
theorem begins_distinguish (begins : operations <+: longer) : distinguish operations <+: distinguish longer :=
  begins_appendCounts (begins_appendMethods begins)

/-- No method is put behind names that are all new. -/
theorem appendMethods_of_nodup (fresh : (seen ++ operations.map name).Nodup) :
    appendMethods seen operations = operations := by
  induction operations generalizing seen with
  | nil => rfl
  | cons operation rest ih =>
    -- The name counts as seen for those that follow, and is none of them.
    have next := List.nodup_middle.mp fresh
    have unseen : operation.name ∉ seen := fun held => (List.nodup_cons.mp next).1 (List.mem_append_left _ held)
    rw [appendMethods, if_neg (by simpa using unseen), ih next]

/-- No number is put behind names that are all new. -/
theorem appendCounts_of_nodup (fresh : (seen ++ operations.map name).Nodup) :
    appendCounts seen operations = operations := by
  induction operations generalizing seen with
  | nil => rfl
  | cons operation rest ih =>
    have next := List.nodup_middle.mp fresh
    have unseen : operation.name ∉ seen := fun held => (List.nodup_cons.mp next).1 (List.mem_append_left _ held)
    rw [appendCounts, ih next, if_pos (List.count_eq_zero.mpr unseen)]

/-- Operations that are told from each other by their names already are left as they are. -/
theorem distinguish_of_nodup (distinct : (operations.map name).Nodup) : distinguish operations = operations := by
  rw [distinguish, appendMethods_of_nodup distinct, appendCounts_of_nodup distinct]

/-- The operation with nothing but its name, its service, its method and its path. -/
def outline (operation : Operation) : Operation :=
  { name := operation.name, service := operation.service, method := operation.method, path := operation.path }

/-- Methods are put behind names whatever else there is to the operations. -/
theorem map_outline_appendMethods (seen : List String) (operations : List Operation) :
    (appendMethods seen operations).map outline = appendMethods seen (operations.map outline) := by
  induction operations generalizing seen with
  | nil => rfl
  | cons operation rest ih =>
    -- Only names are compared with what has been seen, and an outline has the same one.
    simp only [appendMethods, List.map_cons, outline]
    split <;> simp [ih, outline]

/-- Numbers are put behind names whatever else there is to the operations. -/
theorem map_outline_appendCounts (seen : List String) (operations : List Operation) :
    (appendCounts seen operations).map outline = appendCounts seen (operations.map outline) := by
  induction operations generalizing seen with
  | nil => rfl
  | cons operation rest ih => simp [appendCounts, ih, outline]

/-- Operations are told from each other whatever else there is to them. -/
theorem map_outline_distinguish (operations : List Operation) :
    (distinguish operations).map outline = distinguish (operations.map outline) := by
  rw [distinguish, map_outline_appendCounts, map_outline_appendMethods, distinguish]

/-- A resolved operation has the name for its route and its identifier. -/
theorem name_of_resolve {document url tag definition : Value} {method : String} {shared : List Parameter}
    {config : Config} {operation : Operation}
    (resolved : resolve document url method tag definition shared config = .ok operation) :
    operationName url method config (definition.entries.get "operationId") = .ok operation.name := by
  -- All else that is resolved beside the name has no part in it.
  simp only [resolve, Outcome.bind_eq_ok, Value.members_eq_ok] at resolved
  obtain ⟨members, rfl, name, named, service, -, _, -, _, -, _, -, built⟩ := resolved
  split at built <;> simp only [Outcome.bind_eq_ok, Outcome.pure_eq_ok] at built <;>
    obtain ⟨_, -, rfl⟩ := built <;> exact named

end Operation

namespace Endpoint

variable {document : Value} {config : Config} {endpoints : List Endpoint} {operations : List Operation}

/-- The outline of the operation for an endpoint, in which the rest of the document has no part. -/
def outline (config : Config) (endpoint : Endpoint) : Outcome Operation := do
  let id := endpoint.definition.entries.get "operationId"
  let name ← operationName (.scalar endpoint.path) endpoint.method config id
  let service ← serviceName endpoint.tag
  return { name, service, method := String.ofList (Text.toUpper endpoint.method.toList), path := .scalar endpoint.path }

/-- What is resolved for an endpoint has its outline. -/
theorem outline_of_resolves {endpoint : Endpoint} {operation : Operation}
    (resolved : endpoint.Resolves document config operation) : endpoint.outline config = .ok operation.outline := by
  obtain ⟨shared, -, made⟩ := resolved
  obtain ⟨-, service, method⟩ := Operation.named_of_resolve made
  rw [outline, Operation.name_of_resolve made, service, Operation.outline, method, Operation.path_of_resolve made]
  rfl

/-- What is resolved for endpoints has their outlines, whatever the document is. -/
theorem mapM_outline (resolves : List.Forall₂ (Resolves document config) endpoints operations) :
    endpoints.mapM (outline config) = .ok (operations.map Operation.outline) := by
  rw [Outcome.mapM_eq_ok, List.forall₂_map_right_iff]
  exact resolves.imp fun _ _ => outline_of_resolves

/-- A document that goes on with further paths has the same endpoints first. -/
theorem begins_all {extended : Value} {paths added : Members} (found : Document.paths document = .ok (.map paths))
    (foundMore : Document.paths extended = .ok (.map (paths ++ added))) : all document <+: all extended := by
  rw [all, all, entries_of_paths found rfl, entries_of_paths foundMore rfl, List.flatMap_append]
  exact List.prefix_append _ _

/-- What is resolved for the same endpoints first has the same outlines first, whatever the documents are. -/
theorem begins_outlines {extended : Value} {others : List Endpoint} {more : List Operation}
    (begins : endpoints <+: others) (resolves : List.Forall₂ (Resolves document config) endpoints operations)
    (resolvesMore : List.Forall₂ (Resolves extended config) others more) :
    operations.map Operation.outline <+: more.map Operation.outline := by
  obtain ⟨added, rfl⟩ := begins
  have made := mapM_outline resolvesMore
  simp only [List.mapM_append, mapM_outline resolves, Outcome.bind_eq_ok, Outcome.pure_eq_ok] at made
  obtain ⟨_, same, behind, -, made⟩ := made
  cases same
  rw [← made]
  exact List.prefix_append _ _

end Endpoint

namespace Service

variable {config : Config} {services more : List Service} {operations longer : List Operation}

/-- Every service of the first list is at its place in the second one, and there its operations come first,
with the names that they have. -/
def Continues (services more : List Service) : Prop :=
  ∀ (i : Nat) (s : Service), services[i]? = some s → ∃ t : Service, more[i]? = some t ∧ t.name = s.name ∧
    s.operations.map Operation.outline <+: t.operations.map Operation.outline

/-- The services of operations are named in the order of the outlines. -/
theorem map_service_outline (operations : List Operation) :
    (operations.map Operation.outline).map Operation.service = operations.map Operation.service := by
  rw [List.map_map]
  rfl

/-- The operations that belong to a service have the outlines that belong to it. -/
theorem map_outline_gathered (operations : List Operation) (name : String) :
    (gathered operations name).operations.map Operation.outline
      = (gathered (operations.map Operation.outline) name).operations := by
  rw [gathered, gathered, List.filter_map]
  rfl

/-- Services go on as their operations do. -/
theorem continues_group (begins : operations.map Operation.outline <+: longer.map Operation.outline) :
    Continues ((group operations).map distinguished) ((group longer).map distinguished) := by
  have names : (operations.map Operation.service).eraseDups <+: (longer.map Operation.service).eraseDups := by
    rw [← map_service_outline operations, ← map_service_outline longer]
    obtain ⟨added, same⟩ := begins.map Operation.service
    rw [← same, List.eraseDups_append]
    exact List.prefix_append _ _
  -- A service is found at the place of its name, and keeps the operations that are in it first.
  intro i s found
  rw [group_eq, List.map_map, List.getElem?_map] at found
  obtain ⟨name, there, rfl⟩ := Option.map_eq_some_iff.mp found
  obtain ⟨inside, named⟩ := List.getElem?_eq_some_iff.mp there
  refine ⟨distinguished (gathered longer name), ?_, rfl, ?_⟩
  · rw [group_eq, List.map_map, List.getElem?_map, List.prefix_iff_getElem?.mp names i inside, named]
    rfl
  · -- Only the outlines have a part in the names.
    simp only [Function.comp, distinguished, Operation.map_outline_distinguish, map_outline_gathered]
    exact Operation.begins_distinguish (begins.filter _)

/--
Names of operations are stable: they do not depend on what comes later.

A list that goes on has the names of the shorter one first.
Names that are all different are kept, and whatever is put behind a name, it still begins with what it was.
A document that has further paths behind those that it has therefore keeps the names of all its methods.
-/
theorem names_stable :
    (∀ operations longer : List Operation, operations <+: longer →
        Operation.distinguish operations <+: Operation.distinguish longer) ∧
      (∀ operations : List Operation, (operations.map Operation.name).Nodup →
        Operation.distinguish operations = operations) ∧
      (∀ operations : List Operation,
        List.Forall₂ Operation.Lengthens operations (Operation.distinguish operations)) ∧
      ∀ (document extended : Value) (paths added : Members) (config : Config) (services more : List Service),
        Document.paths document = .ok (.map paths) → Document.paths extended = .ok (.map (paths ++ added)) →
        all document config = .ok services → all extended config = .ok more → Continues services more := by
  refine ⟨fun _ _ => Operation.begins_distinguish, fun _ => Operation.distinguish_of_nodup,
    Operation.lengthens_distinguish, ?_⟩
  intro document extended paths added config services more found foundMore built builtMore
  obtain ⟨operations, resolves, rfl⟩ := exists_resolves built
  obtain ⟨longer, resolvesMore, rfl⟩ := exists_resolves builtMore
  exact continues_group (Endpoint.begins_outlines (Endpoint.begins_all found foundMore) resolves resolvesMore)

/-- A path that brings a third operation of one name, an operation in a new service, and a name that is given
already. -/
theorem names_stable_added :
    let listing (tag : String) : Value :=
      .map [(.text "operationId", "list"), (.text "tags", .list [.text tag])]
    let paths : Members := [
      (.text "/pets", .map [(.text "get", listing "pets")]), (.text "/orders", .map [(.text "get", listing "pets")])]
    let added : Members := [
      (.text "/dogs", .map [(.text "post", listing "pets"), (.text "get", listing "dogs"),
        (.text "put", .map [(.text "operationId", "list-get"), (.text "tags", .list ["pets"])])])]
    let document (paths : Members) : Value := .map [(.text "swagger", "2.0"), (.text "paths", .map paths)]
    ∃ services more, all (document paths) {} = .ok services ∧ all (document (paths ++ added)) {} = .ok more ∧
      services.map (fun s => s.operations.map Operation.name) = [["list", "listGet"]] ∧
      more.map (fun s => s.operations.map Operation.name) = [["list", "listGet", "listPost", "listGet2"], ["list"]] ∧
      Continues services more ∧ ∀ s ∈ services, Operation.distinguish s.operations = s.operations := by
  intro listing paths added document
  obtain ⟨services, built, seen⟩ := Outcome.exists_of_any (x := all (document paths) {})
    (p := fun services => services.map (fun s => s.operations.map Operation.name) == [["list", "listGet"]])
    (by decide +kernel)
  obtain ⟨more, builtMore, seenMore⟩ := Outcome.exists_of_any (x := all (document (paths ++ added)) {})
    (p := fun more => more.map (fun s => s.operations.map Operation.name)
      == [["list", "listGet", "listPost", "listGet2"], ["list"]])
    (by decide +kernel)
  rw [beq_iff_eq] at seen seenMore
  refine ⟨services, more, built, builtMore, seen, seenMore,
    names_stable.2.2.2 _ _ paths added {} services more rfl rfl built builtMore, fun s mem => ?_⟩
  -- The names of the only service are different from each other.
  have names : s.operations.map Operation.name = ["list", "listGet"] := by
    simpa [seen] using List.mem_map_of_mem (f := fun s => s.operations.map Operation.name) mem
  exact names_stable.2.1 _ (by rw [names]; decide)

end Service

end TypedClient
