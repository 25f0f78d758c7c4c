import Mathlib.Data.List.Nodup
import TypedClient.Proofs.TypeScript.File

/-! What a file imports after any requests: each name that was asked for, once and as it was first asked for. -/

namespace TypedClient

namespace ImportRequest

variable {requests : List ImportRequest} {source name : String} {item : ImportName}

/-- What was asked of a module, from the first request to the last. -/
def itemsFrom (requests : List ImportRequest) (source : String) : List ImportName :=
  (requests.filter fun request => request.source == source).flatMap items

/-- A further request counts for the module that it asks. -/
theorem itemsFrom_concat (requests : List ImportRequest) (request : ImportRequest) (source : String) :
    itemsFrom (requests ++ [request]) source
      = itemsFrom requests source ++ if request.source = source then request.items else [] := by
  by_cases same : request.source = source <;> simp [itemsFrom, same]

/-- What was asked of a module is what the requests to it ask for. -/
theorem mem_itemsFrom :
    item ∈ itemsFrom requests source ↔ ∃ request ∈ requests, request.source = source ∧ item ∈ request.items := by
  simp [itemsFrom, and_assoc]

/-- A name was asked of a module if some request to it asks for the name. -/
theorem mem_names_itemsFrom :
    name ∈ (itemsFrom requests source).map ImportName.name
      ↔ ∃ request ∈ requests, request.source = source ∧ name ∈ request.items.map ImportName.name := by
  simp only [List.mem_map, mem_itemsFrom]
  constructor
  · rintro ⟨item, ⟨request, inside, same, asked⟩, named⟩
    exact ⟨request, inside, same, item, asked, named⟩
  · rintro ⟨request, inside, same, item, asked, named⟩
    exact ⟨item, ⟨request, inside, same, asked⟩, named⟩

/-- Nothing was asked of a module that no request mentions. -/
theorem itemsFrom_eq_nil (absent : source ∉ requests.map ImportRequest.source) : itemsFrom requests source = [] := by
  refine List.eq_nil_iff_forall_not_mem.mpr fun item mem => absent ?_
  obtain ⟨request, inside, same, -⟩ := mem_itemsFrom.mp mem
  exact List.mem_map.mpr ⟨request, inside, same⟩

/-- The imports of a file are what the requests to it ask for. -/
structure Answers (requests : List ImportRequest) (imports : List Import) : Prop where
  /-- A module has one import at most. -/
  once : (imports.map Import.source).Nodup
  /-- The modules come in the order of their first mention, even if nothing was asked of them then. -/
  ordered : (imports.map Import.source).Pairwise fun a b =>
    (requests.map ImportRequest.source).idxOf a < (requests.map ImportRequest.source).idxOf b
  /-- Something is imported from each module that has an import. -/
  nonempty : ∀ entry ∈ imports, entry.names ≠ []
  /-- No name is imported twice from a module. -/
  distinct : ∀ entry ∈ imports, (entry.names.map ImportName.name).Nodup
  /-- A name is imported from a module exactly if some request asks for it there. -/
  mem_iff : ∀ source name,
    (∃ entry ∈ imports, entry.source = source ∧ name ∈ entry.names.map ImportName.name)
      ↔ ∃ request ∈ requests, request.source = source ∧ name ∈ request.items.map ImportName.name
  /-- A name is imported as it was first asked for. -/
  first : ∀ entry ∈ imports, ∀ item ∈ entry.names,
    (itemsFrom requests entry.source).find? (fun asked => asked.name == item.name) = some item

end ImportRequest

namespace Manifest

open ImportRequest (itemsFrom)

variable {items names : List ImportName} {item : ImportName} {manifest : Manifest} {entry : Import}
  {sources : List String} {source : String} {requests : List ImportRequest}

/-- No name is kept twice. -/
theorem nodup_addNames (items : List ImportName) : ((addNames [] items).map ImportName.name).Nodup := by
  -- An item counts as kept if another one of its name is.
  have apart := pairwise_foldl_keep (fun kept item : ImportName => kept.name == item.name) items
  exact List.pairwise_map.mpr (apart.imp fun different => by simpa using different)

/-- What is kept for a name is what was asked for first under it. -/
theorem find?_addNames (items : List ImportName) (name : String) :
    (addNames [] items).find? (fun item => item.name == name) = items.find? fun item => item.name == name := by
  refine find?_foldl_keep (fun kept item same => ?_) items
  rw [eq_of_beq same]

/-- A name is kept exactly if it was asked for. -/
theorem mem_names_addNames {name : String} :
    name ∈ (addNames [] items).map ImportName.name ↔ name ∈ items.map ImportName.name := by
  -- A search for the name finds something in both lists, or in neither.
  have found := congrArg Option.isSome (find?_addNames items name)
  rw [Bool.eq_iff_iff, List.find?_isSome, List.find?_isSome] at found
  simpa using found

/-- Each item that is kept is the first that was asked for under its name. -/
theorem find?_of_mem_addNames (mem : item ∈ addNames [] items) :
    items.find? (fun asked => asked.name == item.name) = some item := by
  rw [← find?_addNames]
  cases found : (addNames [] items).find? fun asked => asked.name == item.name with
  | none => simpa using List.find?_eq_none.mp found item mem
  | some kept =>
    -- Another one under the name would be kept twice.
    have same : kept.name = item.name := by simpa using List.find?_some found
    rw [List.inj_on_of_nodup_map (nodup_addNames items) (List.mem_of_find?_eq_some found) mem same]

/-- A request to a known module adds to its names, and leaves the others as they are. -/
theorem request_of_mem {kept : String → List ImportName} (distinct : sources.Nodup) (known : source ∈ sources) :
    Manifest.request source names (sources.map fun other => (other, kept other))
      = sources.map fun other => (other, if other = source then addNames (kept other) names else kept other) := by
  -- The modules are passed one by one until the one that is asked is found.
  induction sources with
  | nil => cases known
  | cons first rest ih =>
    obtain ⟨apart, distinct⟩ := List.nodup_cons.mp distinct
    by_cases same : first = source
    · subst same
      have others : (rest.map fun other => (other, kept other))
          = rest.map fun other => (other, if other = first then addNames (kept other) names else kept other) := by
        refine List.map_congr_left fun other mem => ?_
        have different : other ≠ first := fun equal => apart (equal ▸ mem)
        rw [if_neg different]
      simpa [request] using others
    · have later := ih distinct ((List.mem_cons.mp known).resolve_left (Ne.symm same))
      simpa [request, same] using later

/-- The manifest that requests lead to: the modules that were mentioned, in the order of their first mention, each
with what is kept of all that was asked of it. -/
def ofRequests (requests : List ImportRequest) : Manifest :=
  (requests.map ImportRequest.source).eraseDups.map fun source => (source, addNames [] (itemsFrom requests source))

/-- The modules of the requests are those that were mentioned, in the order of their first mention. -/
theorem sources_ofRequests (requests : List ImportRequest) :
    (ofRequests requests).map Prod.fst = (requests.map ImportRequest.source).eraseDups := by
  simp [ofRequests, Function.comp_def]

/-- One more request leads to the manifest of all requests with it. -/
theorem request_ofRequests (requests : List ImportRequest) (request : ImportRequest) :
    (ofRequests requests).request request.source request.items = ofRequests (requests ++ [request]) := by
  conv_rhs => rw [ofRequests, List.map_append, List.map_singleton, eraseDups_concat]
  -- The module of the request has been mentioned before, or this is its first mention.
  split
  · next known =>
    rw [ofRequests, request_of_mem (nodup_eraseDups _) known]
    refine List.map_congr_left fun source _ => ?_
    rw [ImportRequest.itemsFrom_concat, addNames_append]
    by_cases same : source = request.source
    · simp [same]
    · simp [same, Ne.symm same, addNames]
  · next fresh =>
    have passed : ∀ entry ∈ ofRequests requests, entry.1 ≠ request.source := by
      intro entry mem same
      rw [← sources_ofRequests, ← same] at fresh
      exact fresh (List.mem_map_of_mem mem)
    -- Nothing was asked of the module before, so the request alone decides what is kept of it.
    have unasked := ImportRequest.itemsFrom_eq_nil (mt List.mem_eraseDups.mpr fresh)
    rw [request_of_absent passed, ofRequests, List.map_append, List.map_singleton, ImportRequest.itemsFrom_concat,
      unasked, if_pos rfl, List.nil_append]
    refine congrArg (· ++ _) (List.map_congr_left fun source mem => ?_)
    have other : request.source ≠ source := fun same => fresh (same ▸ mem)
    rw [ImportRequest.itemsFrom_concat, if_neg other, List.append_nil]

/-- An empty manifest that is asked for names becomes the manifest of the requests. -/
theorem foldl_request (requests : List ImportRequest) :
    requests.foldl (fun (manifest : Manifest) request => manifest.request request.source request.items) []
      = ofRequests requests := by
  -- The last request meets what all requests before it have led to.
  induction requests using List.reverseRecOn with
  | nil => rfl
  | append_singleton requests request ih =>
    rw [List.foldl_append, ih]
    exact request_ofRequests requests request

/-- The modules that are imported from are known ones, in their order. -/
theorem sources_imports_sublist (manifest : Manifest) :
    (manifest.imports.map Import.source).Sublist (manifest.map Prod.fst) := by
  rw [imports, List.map_map]
  exact List.filter_sublist.map Prod.fst

/-- An import is an entry with some names. -/
theorem mem_imports : entry ∈ manifest.imports ↔ (entry.source, entry.names) ∈ manifest ∧ entry.names ≠ [] := by
  obtain ⟨source, names⟩ := entry
  simp [imports]

/-- An import has what is kept of all that was asked of its module. -/
theorem mem_imports_ofRequests :
    entry ∈ (ofRequests requests).imports
      ↔ entry.names = addNames [] (itemsFrom requests entry.source) ∧ entry.names ≠ [] := by
  rw [mem_imports]
  refine and_congr_left fun some => ?_
  simp only [ofRequests, List.mem_map, List.mem_eraseDups, Prod.mk.injEq]
  constructor
  · rintro ⟨source, -, rfl, kept⟩
    exact kept.symm
  · intro kept
    -- Nothing would be kept of a module that no request mentions.
    have mentioned : entry.source ∈ requests.map ImportRequest.source := by
      by_contra absent
      rw [kept, ImportRequest.itemsFrom_eq_nil absent] at some
      exact some rfl
    exact ⟨entry.source, List.mem_map.mp mentioned, rfl, kept.symm⟩

/-- A name is imported from a module exactly if it was asked of the module. -/
theorem mem_names_imports_ofRequests {name : String} :
    (∃ entry ∈ (ofRequests requests).imports, entry.source = source ∧ name ∈ entry.names.map ImportName.name)
      ↔ name ∈ (itemsFrom requests source).map ImportName.name := by
  rw [← mem_names_addNames]
  constructor
  · rintro ⟨entry, mem, rfl, inside⟩
    rwa [(mem_imports_ofRequests.mp mem).1] at inside
  · intro kept
    -- The module has an import, as something is kept of what was asked of it.
    have some : addNames [] (itemsFrom requests source) ≠ [] := by
      rintro none
      simp only [none, List.map_nil, List.not_mem_nil] at kept
    exact ⟨⟨source, _⟩, mem_imports_ofRequests.mpr ⟨rfl, some⟩, rfl, kept⟩

end Manifest

namespace OutputFile

open ImportRequest (Answers)

/-- A file that is asked for imports asks its manifest for them. -/
theorem manifest_foldl_ask (requests : List ImportRequest) (file : OutputFile) :
    (requests.foldl ask file).manifest
      = requests.foldl (fun manifest request => manifest.request request.source request.items) file.manifest :=
  (List.foldl_hom manifest fun _ _ => rfl).symm

/-- A new file that is asked for imports has those of the manifest of the requests. -/
theorem imports_foldl_ask (name : String) (declarations : List Declaration) (requests : List ImportRequest) :
    (requests.foldl ask { name, declarations }).imports = (Manifest.ofRequests requests).imports := by
  rw [imports, manifest_foldl_ask, Manifest.foldl_request]

/-- Whatever is asked of a new file, in whatever order, its imports are what the requests ask for. -/
theorem answers_foldl_ask (name : String) (declarations : List Declaration) (requests : List ImportRequest) :
    Answers requests (requests.foldl ask { name, declarations }).imports := by
  -- All of it is read off the manifest of the requests.
  rw [imports_foldl_ask]
  have modules := Manifest.sources_imports_sublist (Manifest.ofRequests requests)
  rw [Manifest.sources_ofRequests] at modules
  exact {
    once := modules.nodup (nodup_eraseDups _)
    ordered := (pairwise_idxOf_eraseDups _).sublist modules
    nonempty := fun entry mem => (Manifest.mem_imports_ofRequests.mp mem).2
    distinct := by
      intro entry mem
      rw [(Manifest.mem_imports_ofRequests.mp mem).1]
      exact Manifest.nodup_addNames _
    mem_iff := fun source name =>
      Manifest.mem_names_imports_ofRequests.trans ImportRequest.mem_names_itemsFrom
    first := by
      intro entry mem item inside
      rw [(Manifest.mem_imports_ofRequests.mp mem).1] at inside
      exact Manifest.find?_of_mem_addNames inside }

/-- A module keeps the place of its first mention, and a name what was said of it first. -/
example :
    let requests : List ImportRequest := [.many "./types" [], .one "./core" (.full ⟨"request", some "__request", false⟩),
      .many "./types" [.bare "Pet", .bare "User"], .many "./types" [.full ⟨"Pet", none, true⟩, .bare "Tag"]]
    (requests.foldl ask { name := "services.ts" }).imports
      = [⟨"./types", [{ name := "Pet" }, { name := "User" }, { name := "Tag" }]⟩,
        ⟨"./core", [{ name := "request", localName := some "__request" }]⟩] := by decide

end OutputFile

end TypedClient
