import Mathlib.Data.List.Forall2
import Mathlib.Data.List.Nodup
import TypedClient.Declaration.Services
import TypedClient.Proofs.Distinct
import TypedClient.Proofs.Operation.TypeNames
import TypedClient.Proofs.Schema.Form
import TypedClient.Proofs.Text.Search
import TypedClient.Proofs.Value.Equality

/-! Grouping: each method of a path has one operation for each of its tags, in the service of the tag. -/

namespace TypedClient

/-- The members of a map; nothing else has any. -/
def Value.entries : Value → Members
  | map members => members
  | _ => []

/-- What one operation is made of: a path with its item, an entry of the item for a method, and a tag. -/
structure Endpoint where
  path : Scalar
  item : Value
  method : String
  definition : Value
  tag : Value

namespace Endpoint

/-- The tags of an entry, each once; an entry without any has the default one. -/
def tags (definition : Value) : List Value :=
  let listed := Value.distinct ((definition.entries.get "tags").elements.toOption.getD [])
  if listed.isEmpty then [.text Service.defaultTag] else listed

/-- The endpoints of an entry of a path item: one for each tag if its key is a method, and else none. -/
def ofEntry (path : Scalar) (item : Value) (entry : Scalar × Value) : List Endpoint :=
  match entry.1 with
  | .text method =>
    if Operation.methods.contains method then
      (tags entry.2).map fun tag => { path, item, method, definition := entry.2, tag }
    else []
  | _ => []

/-- The endpoints of a path, in the order of the entries of its item. -/
def ofPath (path : Scalar) (item : Value) : List Endpoint :=
  item.entries.flatMap (ofEntry path item)

/-- All endpoints of a document, path by path. -/
def all (document : Value) : List Endpoint :=
  (document.entries.get "paths").entries.flatMap fun entry => ofPath entry.1 entry.2

/-- The name of the service for an endpoint, if its tag can be made a name. -/
def service? (endpoint : Endpoint) : Option String :=
  (serviceName endpoint.tag).toOption

/-- Two endpoints differ in their path, in their method or in their tag. -/
def Differ (a b : Endpoint) : Prop :=
  ¬ (a.path = b.path ∧ a.method = b.method ∧ a.tag.same b.tag = true)

variable {document definition : Value} {config : Config}

/-- The operation is resolved for the endpoint, with the parameters that its path has for all methods. -/
def Resolves (document : Value) (config : Config) (endpoint : Endpoint) (operation : Operation) : Prop :=
  ∃ shared,
    Parameter.ofList document ((endpoint.item.entries.get "parameters").orElse (.list [])) = .ok shared ∧
    Operation.resolve document (.scalar endpoint.path) endpoint.method endpoint.tag endpoint.definition
      shared config = .ok operation

/-- The operation stands for the endpoint: it has its path and its method, and is in the service of its
tag. -/
structure Makes (endpoint : Endpoint) (operation : Operation) : Prop where
  path : operation.path = .scalar endpoint.path
  method : operation.method = String.ofList (Text.toUpper endpoint.method.toList)
  service : endpoint.service? = some operation.service

/-- What counts as nothing has nothing to go through. -/
theorem elements_of_falsy {v : Value} (falsy : v.truthy = false) : v.elements.toOption.getD [] = [] := by
  -- Of each kind it is the empty value, unless nothing of the kind can be gone through anyway.
  cases v with
  | scalar s =>
    cases s with
    | text s =>
      obtain rfl : s = "" := by simpa [Value.truthy, Scalar.truthy] using falsy
      rfl
    | bytes content =>
      obtain rfl : content = [] := by simpa [Value.truthy, Scalar.truthy] using falsy
      rfl
    | _ => rfl
  | pair => cases falsy
  | list items =>
    obtain rfl : items = [] := by simpa [Value.truthy] using falsy
    rfl
  | map members =>
    obtain rfl : members = [] := by simpa [Value.truthy] using falsy
    rfl
  | set items =>
    obtain rfl : items = [] := by simpa [Value.truthy] using falsy
    rfl

/-- The tags that operations are resolved for are those of the endpoints. -/
theorem tags_of_tagsOf {found : List Value} (listed : Service.tagsOf definition = .ok found) :
    found = tags definition := by
  simp only [Service.tagsOf, Value.asKeys, Outcome.bind_eq_ok, Value.get_eq_ok,
    Outcome.pure_eq_ok] at listed
  obtain ⟨_, ⟨members, rfl, rfl⟩, kept, ⟨items, gone, made⟩, rfl⟩ := listed
  -- Tags that count as nothing are read as an empty list.
  have same : (members.get "tags").elements.toOption.getD [] = items := by
    rw [Value.orElse] at gone
    cases truthy : (members.get "tags").truthy with
    | true =>
      rw [truthy, if_pos rfl] at gone
      rw [gone]
      rfl
    | false =>
      rw [truthy] at gone
      cases gone
      exact elements_of_falsy truthy
  split at made
  · cases made
    rw [tags]
    simp only [Value.entries, same]
  · cases made

/-- The operations of an entry are resolved for its endpoints, one for each. -/
theorem resolves_of_operationsOf {path : Scalar} {item : Value} {shared : List Parameter}
    (resolvedShared :
      Parameter.ofList document ((item.entries.get "parameters").orElse (.list [])) = .ok shared)
    (entry : Scalar × Value) {operations : List Operation}
    (made : Service.operationsOf document config (.scalar path) shared entry.1 entry.2 = .ok operations) :
    List.Forall₂ (Resolves document config) (ofEntry path item entry) operations := by
  obtain ⟨key, definition⟩ := entry
  cases key with
  | text method =>
    simp only [Service.operationsOf] at made
    simp only [ofEntry]
    by_cases known : Operation.methods.contains method = true
    · rw [if_pos known] at made ⊢
      obtain ⟨found, listed, made⟩ := Outcome.bind_eq_ok.mp made
      rw [← tags_of_tagsOf listed, List.forall₂_map_left_iff]
      exact (Outcome.mapM_eq_ok.mp made).imp fun tag operation resolved => ⟨shared, resolvedShared, resolved⟩
    · rw [if_neg known] at made ⊢
      cases made
      exact .nil
  | _ =>
    -- A key that is no text stands for no method.
    cases made
    exact .nil

/-- The operations of a path are resolved for its endpoints, one for each. -/
theorem resolves_of_operationsOfPath {path : Scalar} {item : Value} {operations : List Operation}
    (made : Service.operationsOfPath document config path item = .ok operations) :
    List.Forall₂ (Resolves document config) (ofPath path item) operations := by
  simp only [Service.operationsOfPath, Outcome.bind_eq_ok, Value.get_eq_ok, Value.members_eq_ok,
    Outcome.pure_eq_ok] at made
  obtain ⟨_, ⟨members, rfl, rfl⟩, shared, found, _, same, each, done, rfl⟩ := made
  cases same
  exact Outcome.related_flatten done fun entry operations => resolves_of_operationsOf found entry

/-- What is gone through as the paths of a document is what is listed there. -/
theorem entries_of_paths {part : Value} {paths : Members}
    (found : Document.paths document = .ok part) (listed : part.members = .ok paths) :
    (document.entries.get "paths").entries = paths := by
  simp only [Document.paths, Document.mapUnder, Outcome.bind_eq_ok, Value.get_eq_ok,
    Outcome.pure_eq_ok] at found
  obtain ⟨_, ⟨members, rfl, rfl⟩, rfl⟩ := found
  rw [Value.members_eq_ok, Value.orElse] at listed
  rw [Value.entries]
  split at listed
  · rw [listed]
    rfl
  · next falsy =>
    -- Whatever counts as nothing is read as an empty map, and has no entries of its own.
    cases listed
    cases given : members.get "paths" with
    | map members =>
      obtain rfl : members = [] := by simpa [given, Value.truthy] using falsy
      rfl
    | _ => rfl

/-- No path of the document and no entry of a path is listed twice. -/
def KeysApart (document : Value) : Prop :=
  ((document.entries.get "paths").entries.map Prod.fst).Nodup ∧
    ∀ entry ∈ (document.entries.get "paths").entries, (entry.2.entries.map Prod.fst).Nodup

instance : Decidable (KeysApart document) :=
  inferInstanceAs (Decidable (_ ∧ _))

/-- The tags of an entry are different from each other. -/
theorem pairwise_tags (definition : Value) :
    (tags definition).Pairwise fun a b => a.same b = false := by
  rw [tags]
  split
  · exact List.pairwise_singleton _ _
  · exact Value.pairwise_distinct _

/-- An endpoint of an entry is one of its path, for the method that is the key. -/
theorem route_of_mem_ofEntry {path : Scalar} {item : Value} {entry : Scalar × Value} {endpoint : Endpoint}
    (mem : endpoint ∈ ofEntry path item entry) :
    endpoint.path = path ∧ entry.1 = .text endpoint.method := by
  rw [ofEntry] at mem
  split at mem
  · next method key =>
    split at mem
    · obtain ⟨tag, -, rfl⟩ := List.mem_map.mp mem
      exact ⟨rfl, key⟩
    · cases mem
  · cases mem

/-- No endpoint is listed twice in a document that lists no key twice. -/
theorem pairwise_all (apart : KeysApart document) : (all document).Pairwise Differ := by
  obtain ⟨paths, keys⟩ := apart
  -- Wherever two endpoints come from two places, they differ in what tells the places from each other.
  have pathOf {path : Scalar} {item : Value} {endpoint : Endpoint} (mem : endpoint ∈ ofPath path item) :
      endpoint.path = path := by
    obtain ⟨entry, -, mem⟩ := List.mem_flatMap.mp mem
    exact (route_of_mem_ofEntry mem).1
  refine List.pairwise_flatMap.mpr ⟨fun entry listed => ?_, ?_⟩
  · refine List.pairwise_flatMap.mpr ⟨fun key _ => ?_, ?_⟩
    · -- Under one key, the tags are different.
      rw [ofEntry]
      split
      · split
        · rw [List.pairwise_map]
          exact (pairwise_tags _).imp fun differ same => by simp [differ] at same
        · exact .nil
      · exact .nil
    · -- Under two keys, the methods are different.
      refine (List.pairwise_map.mp (keys entry listed)).imp fun differ a first b second same => differ ?_
      rw [(route_of_mem_ofEntry first).2, (route_of_mem_ofEntry second).2, same.2.1]
  · -- Under two paths, these are different themselves.
    refine (List.pairwise_map.mp paths).imp fun differ a first b second same => differ ?_
    rw [← pathOf first, ← pathOf second, same.1]

end Endpoint

namespace Operation

/-- A resolved operation has the path that it is resolved for. -/
theorem path_of_resolve {document url tag definition : Value} {method : String} {shared : List Parameter}
    {config : Config} {operation : Operation}
    (resolved : resolve document url method tag definition shared config = .ok operation) :
    operation.path = url := by
  simp only [resolve, Outcome.bind_eq_ok] at resolved
  obtain ⟨members, -, name, -, service, -, _, -, _, -, _, -, built⟩ := resolved
  split at built <;> simp only [Outcome.bind_eq_ok, Outcome.pure_eq_ok] at built <;>
    obtain ⟨_, -, rfl⟩ := built <;> rfl

/-- The second operation is the first one under a name of its own. -/
def Renames (source operation : Operation) : Prop :=
  operation = { source with name := operation.name }

/-- The second operation is the first one under a name that begins with its own one. -/
def Lengthens (source operation : Operation) : Prop :=
  source.Renames operation ∧ source.name.toList <+: operation.name.toList

/-- An operation begins with its own name. -/
theorem lengthens_self (operation : Operation) : operation.Lengthens operation :=
  ⟨rfl, List.prefix_rfl⟩

/-- With something behind it, a name begins with what it was. -/
theorem lengthens_append (operation : Operation) (behind : String) :
    operation.Lengthens { operation with name := operation.name ++ behind } :=
  ⟨rfl, by simp⟩

/-- Methods are only put behind names. -/
theorem lengthens_appendMethods (seen : List String) (operations : List Operation) :
    List.Forall₂ Lengthens operations (appendMethods seen operations) := by
  induction operations generalizing seen with
  | nil => exact .nil
  | cons operation rest ih =>
    -- The operation is renamed or kept, and what has been seen grows in the second case only.
    rw [appendMethods]
    split
    · exact .cons (lengthens_append _ _) (ih _)
    · exact .cons (lengthens_self _) (ih _)

/-- Numbers are only put behind names. -/
theorem lengthens_appendCounts (seen : List String) (operations : List Operation) :
    List.Forall₂ Lengthens operations (appendCounts seen operations) := by
  induction operations generalizing seen with
  | nil => exact .nil
  | cons operation rest ih =>
    refine .cons ?_ (ih _)
    split
    · exact lengthens_self _
    · exact lengthens_append _ _

/-- Telling names from each other keeps all operations, in their order, and puts something behind names at
most. -/
theorem lengthens_distinguish (operations : List Operation) :
    List.Forall₂ Lengthens operations (distinguish operations) := by
  have both := Outcome.related_trans (lengthens_appendMethods [] operations)
    (lengthens_appendCounts [] (appendMethods [] operations))
  refine both.imp fun source operation ⟨middle, ⟨first, begins⟩, ⟨second, goesOn⟩⟩ => ⟨?_, begins.trans goesOn⟩
  rw [Renames, second, first]

/-- What does not depend on the names of operations is the same when they have been told from each other. -/
theorem flatMap_distinguish {β : Type} {f : Operation → List β}
    (unnamed : ∀ (operation : Operation) (name : String), f { operation with name } = f operation)
    (operations : List Operation) : (distinguish operations).flatMap f = operations.flatMap f := by
  have related := lengthens_distinguish operations
  generalize distinguish operations = renamed at related
  induction related with
  | nil => rfl
  | @cons source operation _ _ head _ ih =>
    have renames : operation = { source with name := operation.name } := head.1
    rw [List.flatMap_cons, List.flatMap_cons, ih, renames, unnamed]

end Operation

namespace Service

variable {document : Value} {config : Config} {services : List Service}

/-- The operations that belong to a service, under its name. -/
def gathered (operations : List Operation) (name : String) : Service :=
  let own := operations.filter fun operation => operation.service == name
  { name, operations := own, imports := own.flatMap Operation.imports, refs := own.flatMap Operation.refs }

/-- One more operation is added to its own service. -/
theorem gathered_own (operations : List Operation) (operation : Operation) :
    gathered (operations ++ [operation]) operation.service
      = (gathered operations operation.service).add operation := by
  simp [gathered, add]

/-- One more operation leaves a service of another name as it is. -/
theorem gathered_other (operations : List Operation) {operation : Operation} {name : String}
    (other : operation.service ≠ name) : gathered (operations ++ [operation]) name = gathered operations name := by
  simp [gathered, other]

/-- A service that no operation belongs to is empty. -/
theorem gathered_of_none {operations : List Operation} {name : String}
    (none : ∀ operation ∈ operations, operation.service ≠ name) : gathered operations name = { name } := by
  have empty : (operations.filter fun operation => operation.service == name) = [] :=
    List.filter_eq_nil_iff.mpr fun operation mem => by simpa using none operation mem
  simp [gathered, empty]

/-- One more operation comes last in its service, which comes last if it is new. -/
theorem place_gathered {operations : List Operation} {operation : Operation} {names : List String}
    (distinct : names.Nodup)
    (fresh : operation.service ∉ names → ∀ other ∈ operations, other.service ≠ operation.service) :
    place operation (names.map (gathered operations))
      = (if operation.service ∈ names then names else names ++ [operation.service]).map
          (gathered (operations ++ [operation])) := by
  -- The services are passed one by one until that of the operation is found.
  induction names with
  | nil =>
    -- There is none, so the operation is the first one of its service.
    have opened := gathered_own operations operation
    rw [gathered_of_none (fresh List.not_mem_nil)] at opened
    simp [place, opened]
  | cons name rest ih =>
    obtain ⟨apart, distinct⟩ := List.nodup_cons.mp distinct
    rw [List.map_cons, place]
    by_cases same : operation.service = name
    · -- Its service is here, and no other one has the name.
      subst same
      have others : rest.map (gathered operations) = rest.map (gathered (operations ++ [operation])) :=
        List.map_congr_left fun other mem => (gathered_other _ fun equal => apart (equal ▸ mem)).symm
      have here : (gathered operations operation.service).name = operation.service := rfl
      rw [if_pos (beq_iff_eq.mpr here), if_pos List.mem_cons_self, List.map_cons, others, gathered_own]
    · have later := ih distinct fun absent => fresh (by simp [same, absent])
      have elsewhere : operation.service ∈ name :: rest ↔ operation.service ∈ rest := by simp [same]
      rw [if_neg (by simpa [gathered] using Ne.symm same), later, ← gathered_other operations same]
      simp only [elsewhere]
      split <;> rfl

/-- The services come in the order of their first operations, each with all operations that belong to
it, in their order. -/
theorem group_eq (operations : List Operation) :
    group operations = (operations.map Operation.service).eraseDups.map (gathered operations) := by
  -- Operations are placed from the first to the last, so the last one is what comes on top.
  induction operations using List.reverseRecOn with
  | nil => rfl
  | append_singleton operations operation ih =>
    have step : group (operations ++ [operation]) = place operation (group operations) := by
      rw [group, List.foldl_append]
      rfl
    rw [step, ih, place_gathered (nodup_eraseDups _), List.map_append, List.map_singleton,
      eraseDups_concat]
    intro absent other mem same
    exact absent (List.mem_eraseDups.mpr (same ▸ List.mem_map_of_mem mem))

/-- The service with its operations told from each other by their names. -/
def distinguished (service : Service) : Service :=
  { service with operations := Operation.distinguish service.operations }

/-- The operations before they are grouped are resolved for the endpoints, one for each. -/
theorem exists_resolves (built : all document config = .ok services) :
    ∃ operations, List.Forall₂ (Endpoint.Resolves document config) (Endpoint.all document) operations ∧
      services = (group operations).map distinguished := by
  simp only [all, Outcome.bind_eq_ok, Outcome.pure_eq_ok] at built
  obtain ⟨_, found, paths, listed, each, done, rfl⟩ := built
  refine ⟨each.flatten, ?_, rfl⟩
  rw [Endpoint.all, Endpoint.entries_of_paths found listed]
  exact Outcome.related_flatten done fun entry operations => Endpoint.resolves_of_operationsOfPath

/-- What is resolved for an endpoint is in the service of its tag. -/
theorem service_of_resolves {endpoint : Endpoint} {operation : Operation}
    (resolved : endpoint.Resolves document config operation) :
    endpoint.service? = some operation.service := by
  obtain ⟨shared, -, made⟩ := resolved
  rw [Endpoint.service?, (Operation.named_of_resolve made).2.1]
  rfl

/-- What is resolved for an endpoint stands for it under any name. -/
theorem makes_of_resolves {endpoint : Endpoint} {source operation : Operation}
    (resolved : endpoint.Resolves document config source) (renamed : source.Renames operation) :
    endpoint.Makes operation := by
  have service := service_of_resolves resolved
  obtain ⟨shared, -, made⟩ := resolved
  have path : source.path = .scalar endpoint.path := Operation.path_of_resolve made
  have method := (Operation.named_of_resolve made).2.2
  -- The name is none of what the endpoint asks for.
  rw [Operation.Renames] at renamed
  refine ⟨?_, ?_, ?_⟩
  · rw [renamed, path]
  · rw [renamed, method]
  · rw [renamed, service]

/-- The operations of a document, grouped: none is lost and none is there twice. -/
structure Grouped (document : Value) (config : Config) (services : List Service) : Prop where
  /-- The services come in the order of their first operations. -/
  names : services.map Service.name
    = ((Endpoint.all document).filterMap Endpoint.service?).eraseDups
  distinct : (services.map Service.name).Nodup
  /-- Every endpoint has its service. -/
  placed : ∀ endpoint ∈ Endpoint.all document, ∃ s ∈ services, endpoint.service? = some s.name
  /-- A service has one operation for each endpoint that belongs to it, in the order of the document. -/
  operations : ∀ s ∈ services, List.Forall₂ Endpoint.Makes
    ((Endpoint.all document).filter fun endpoint => endpoint.service? == some s.name) s.operations
  /-- The operations are those that are resolved for the endpoints, told from each other by their names. -/
  resolved : ∀ s ∈ services, ∃ sources, s.operations = Operation.distinguish sources ∧
    List.Forall₂ (Endpoint.Resolves document config)
      ((Endpoint.all document).filter fun endpoint => endpoint.service? == some s.name) sources
  /-- What a service imports and refers to is what its operations do, one after the other. -/
  lists : ∀ s ∈ services,
    s.imports = s.operations.flatMap Operation.imports ∧ s.refs = s.operations.flatMap Operation.refs
  /-- A text that is to hold the names of services gives each of them a class name. -/
  classNamed : ∀ (other : Config) (pattern : String), other.serviceName = .text pattern →
    ∃ names, services.mapM (fun s => s.className other) = .ok names
  /-- Whatever pattern classes are named by, no two of them get one name. -/
  classNames : ∀ (other : Config) (names : List String),
    other.serviceName.mentions namePlaceholder = .ok true →
      services.mapM (fun s => s.className other) = .ok names → names.Nodup

/-- The name that a pattern gives the class of a service. -/
def classNameOf (pattern name : String) : String :=
  String.ofList (Text.replaceAll namePlaceholder.toList name.toList pattern.toList)

/-- A class is named by the pattern if this is a text. -/
theorem className_eq {other : Config} {pattern : String}
    (edited : other.serviceName.asEditable = .ok pattern) (service : Service) :
    service.className other = .ok (classNameOf pattern service.name) := by
  rw [className, edited]
  rfl

/-- Only a text can be a pattern. -/
theorem asEditable_eq_ok {v : Value} {s : String} (edited : v.asEditable = .ok s) : v = .text s := by
  cases v with
  | scalar found => cases found <;> simp_all [Value.asEditable, Value.asText, misfit]
  | _ => simp [Value.asEditable, Value.asText, misfit] at edited

/-- A pattern with a place for it gives different names different class names. -/
theorem classNameOf_injective {pattern : String}
    (found : Text.occurs namePlaceholder.toList pattern.toList = true) :
    Function.Injective (classNameOf pattern) := by
  intro a b same
  have chars := Text.replaceAll_inj (by decide) found (String.ofList_inj.mp same)
  exact String.toList_inj.mp chars

/-- Services of different names have classes of different names, if their names are put into a pattern. -/
theorem nodup_classNames (distinct : (services.map Service.name).Nodup) {other : Config}
    {names : List String} (valid : other.serviceName.mentions namePlaceholder = .ok true)
    (made : services.mapM (fun s => s.className other) = .ok names) : names.Nodup := by
  cases edited : other.serviceName.asEditable with
  | error e =>
    -- Without a pattern no class has a name, so there are none.
    cases services with
    | nil =>
      cases made
      exact .nil
    | cons s rest => simp [List.mapM_cons, className, edited] at made
  | ok pattern =>
    have found : Text.occurs namePlaceholder.toList pattern.toList = true := by
      simpa [asEditable_eq_ok edited, Value.mentions] using valid
    have each : names.map id = services.map (classNameOf pattern ∘ Service.name) := by
      refine Outcome.map_of_mapM _ id made fun s name own => ?_
      rw [className_eq edited] at own
      exact (Except.ok.inj own).symm
    rw [List.map_id, ← List.map_map] at each
    rw [each]
    exact distinct.map (classNameOf_injective found)

/-- What is resolved for endpoints is in the services of their tags, in the same order. -/
theorem services_of_resolves {endpoints : List Endpoint} {operations : List Operation}
    (resolves : List.Forall₂ (Endpoint.Resolves document config) endpoints operations) :
    endpoints.filterMap Endpoint.service? = operations.map Operation.service := by
  induction resolves with
  | nil => rfl
  | cons head _ ih => rw [List.filterMap_cons_some (service_of_resolves head), ih, List.map_cons]

/-- Telling names from each other leaves the services in the order of their first operations. -/
theorem names_of_group (operations : List Operation) :
    ((group operations).map distinguished).map Service.name
      = (operations.map Operation.service).eraseDups := by
  rw [group_eq, List.map_map, List.map_map]
  exact List.map_id _

/-- A service has the operations of one name, told from each other. -/
theorem eq_of_mem_group {operations : List Operation} {s : Service}
    (mem : s ∈ (group operations).map distinguished) : s = (gathered operations s.name).distinguished := by
  rw [group_eq, List.map_map] at mem
  obtain ⟨name, -, rfl⟩ := List.mem_map.mp mem
  rfl

/-- A service imports and refers to what its operations do, one after the other. -/
theorem lists_of_mem_group {operations : List Operation} {s : Service}
    (mem : s ∈ (group operations).map distinguished) :
    s.imports = s.operations.flatMap Operation.imports ∧ s.refs = s.operations.flatMap Operation.refs := by
  rw [eq_of_mem_group mem]
  -- The lists were added up before the operations were told from each other.
  exact ⟨(Operation.flatMap_distinguish (fun _ _ => rfl) _).symm, (Operation.flatMap_distinguish (fun _ _ => rfl) _).symm⟩

/-- The operations of a service are those that are resolved for the endpoints that belong to it. -/
theorem resolves_gathered {endpoints : List Endpoint} {operations : List Operation}
    (resolves : List.Forall₂ (Endpoint.Resolves document config) endpoints operations) (name : String) :
    List.Forall₂ (Endpoint.Resolves document config)
      (endpoints.filter fun endpoint => endpoint.service? == some name)
      (gathered operations name).operations :=
  List.rel_filter (fun endpoint operation resolved => by simp [service_of_resolves resolved]) resolves

/--
Grouping loses and duplicates nothing.

There is one operation for each path, each method of its item and each tag of the entry, where no two of
these are the same as long as no key is listed twice.
-/
theorem grouped_of_all (apart : Endpoint.KeysApart document) (built : all document config = .ok services) :
    (Endpoint.all document).Pairwise Endpoint.Differ ∧ Grouped document config services := by
  refine ⟨Endpoint.pairwise_all apart, ?_⟩
  obtain ⟨operations, resolves, rfl⟩ := exists_resolves built
  have names := names_of_group operations
  have distinct := names ▸ nodup_eraseDups (operations.map Operation.service)
  refine ⟨?_, distinct, ?_, ?_, ?_, fun s => lists_of_mem_group, ?_, ?_⟩
  · rw [names, services_of_resolves resolves]
  · -- The operation of an endpoint is there, so its service is.
    intro endpoint mem
    obtain ⟨operation, inside, resolved⟩ := Outcome.exists_related resolves mem
    have listed : operation.service ∈ (operations.map Operation.service).eraseDups :=
      List.mem_eraseDups.mpr (List.mem_map_of_mem inside)
    obtain ⟨s, there, same⟩ := List.mem_map.mp (names ▸ listed)
    exact ⟨s, there, by rw [same, service_of_resolves resolved]⟩
  · intro s mem
    rw [congrArg Service.operations (eq_of_mem_group mem)]
    -- The operations of the service are resolved for its endpoints, and then only renamed.
    have renamed := Outcome.related_trans (resolves_gathered resolves s.name)
      (Operation.lengthens_distinguish _)
    exact renamed.imp fun endpoint operation ⟨source, resolved, renames, _⟩ =>
      makes_of_resolves resolved renames
  · intro s mem
    exact ⟨_, congrArg Service.operations (eq_of_mem_group mem), resolves_gathered resolves s.name⟩
  · intro other pattern text
    exact Outcome.exists_mapM fun s _ => ⟨_, className_eq (by rw [text]; rfl) s⟩
  · intro other classes valid made
    exact nodup_classNames distinct valid made

/-- Two tags that are one service, operations of one name in it, an entry without a tag, and an entry that
is no method. -/
theorem grouped_of_all_renamed :
    let listing (tags : List Value) : Value :=
      .map [(.text "operationId", "list"), (.text "tags", .list tags)]
    let document : Value := .map [(.text "swagger", "2.0"), (.text "paths", .map [
      (.text "/pets", .map [(.text "parameters", .list []),
        (.text "get", listing ["pets", "Pets", "pets"]), (.text "post", .map [])]),
      (.text "/orders", .map [(.text "get", listing ["pets"])])])]
    Endpoint.KeysApart document ∧ ∃ services, all document {} = .ok services ∧
      services.map (fun s => (s.name, s.operations.map Operation.name))
        = [("Pets", ["list", "listGet", "listGet2"]), ("Default", ["postPets"])] ∧
      (Endpoint.all document).Pairwise Endpoint.Differ ∧ Grouped document {} services := by
  intro listing document
  have apart : Endpoint.KeysApart document := by decide
  obtain ⟨services, built, seen⟩ := Outcome.exists_of_any (x := all document {})
    (p := fun services => services.map (fun s => (s.name, s.operations.map Operation.name))
      == [("Pets", ["list", "listGet", "listGet2"]), ("Default", ["postPets"])])
    (by decide +kernel)
  exact ⟨apart, services, built, by simpa using seen, grouped_of_all apart built⟩

end Service

end TypedClient
