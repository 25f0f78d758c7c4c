import TypedClient.Proofs.Distinct
import TypedClient.Proofs.Text.Search
import TypedClient.TypeScript.File

/-! What a file imports from a module, however the names were asked for, and the module that it is. -/

namespace TypedClient

namespace Manifest

/-- Names are added one after the other. -/
theorem addNames_append (existing names more : List ImportName) :
    addNames existing (names ++ more) = addNames (addNames existing names) more :=
  List.foldl_append

/-- A single name is added unless it is there already. -/
theorem addNames_singleton (existing : List ImportName) (item : ImportName) :
    addNames existing [item]
      = if existing.any fun kept => kept.name == item.name then existing else existing ++ [item] :=
  rfl

/-- Names that are asked of a new module are imported once each, in the order of their first request. -/
theorem addNames_map {item : String → ImportName} (named : ∀ name, (item name).name = name)
    (names : List String) : addNames [] (names.map item) = names.eraseDups.map item := by
  -- The last request adds its name unless an earlier one has asked for it.
  induction names using List.reverseRecOn with
  | nil => rfl
  | append_singleton names name ih =>
    -- What is kept has the names asked for so far, so a name is among them if it was asked for before.
    have known : ((names.eraseDups.map item).any fun kept => kept.name == (item name).name) = true
        ↔ name ∈ names.eraseDups := by
      simp [List.any_map, named]
    rw [List.map_append, addNames_append, ih, List.map_singleton, addNames_singleton, eraseDups_concat]
    simp only [known]
    -- A fresh name comes last in both lists, and a known one adds nothing.
    split
    · rfl
    · rw [List.map_append, List.map_singleton]

/-- A module of which nothing was asked yet has its entry at the end. -/
theorem request_of_absent {source : String} {names : List ImportName} {manifest : Manifest}
    (absent : ∀ entry ∈ manifest, entry.1 ≠ source) :
    manifest.request source names = manifest ++ [(source, addNames [] names)] := by
  -- Each entry is passed over, since it is one of another module.
  induction manifest with
  | nil => rfl
  | cons entry rest ih =>
    obtain ⟨different, others⟩ := List.forall_mem_cons.mp absent
    simp [request, different, ih others]

/-- A request adds no module but the one that is asked. -/
theorem source_of_mem_request {source : String} {names : List ImportName} {manifest : Manifest}
    {entry : String × List ImportName} (mem : entry ∈ manifest.request source names) :
    entry.1 = source ∨ entry.1 ∈ manifest.map Prod.fst := by
  -- An entry is passed over, or takes the names, and keeps its module either way.
  induction manifest with
  | nil =>
    simp only [request, List.mem_singleton] at mem
    exact .inl (congrArg Prod.fst mem)
  | cons first rest ih =>
    simp only [request] at mem
    split at mem
    · rcases List.mem_cons.mp mem with same | later
      · exact .inr (by simp [same])
      · exact .inr (List.mem_map_of_mem (List.mem_cons_of_mem _ later))
    · rcases List.mem_cons.mp mem with same | later
      · exact .inr (by simp [same])
      · exact (ih later).imp id (List.mem_cons_of_mem _)

end Manifest

namespace OutputFile

/-- The names that a file imports from a module. -/
def importsFrom (file : OutputFile) (source : String) : List ImportName :=
  (file.imports.filter fun item => item.source == source).flatMap Import.names

/-- Requests leave the declarations as they are. -/
theorem declarations_foldl_importing (requests : List (String × List ImportName))
    (file : OutputFile) :
    (requests.foldl (fun file r => file.importing r.1 r.2) file).declarations
      = file.declarations := by
  -- One request changes the manifest alone.
  induction requests generalizing file with
  | nil => rfl
  | cons request rest ih => exact ih _

/-- Requests leave the name as it is. -/
theorem name_foldl_importing (requests : List (String × List ImportName)) (file : OutputFile) :
    (requests.foldl (fun file r => file.importing r.1 r.2) file).name = file.name := by
  induction requests generalizing file with
  | nil => rfl
  | cons request rest ih => exact ih _

/-- Requests add no module but those that are asked. -/
theorem source_of_mem_importing {requests : List (String × List ImportName)} {file : OutputFile}
    {entry : String × List ImportName}
    (mem : entry ∈ (requests.foldl (fun file r => file.importing r.1 r.2) file).manifest) :
    entry.1 ∈ requests.map Prod.fst ∨ entry.1 ∈ file.manifest.map Prod.fst := by
  -- An entry is due to a later request, or stood there after the first one.
  induction requests generalizing file with
  | nil => exact .inr (List.mem_map_of_mem mem)
  | cons request rest ih =>
    rcases ih mem with later | earlier
    · exact .inl (List.mem_cons_of_mem _ later)
    · obtain ⟨known, inside, same⟩ := List.mem_map.mp earlier
      rcases Manifest.source_of_mem_request inside with asked | old
      · exact .inl (by simp [← same, asked])
      · exact .inr (same ▸ old)

/-- A file that had imported nothing refers to modules that it is asked to import from. -/
theorem exists_request_of_mem_importing {requests : List (String × List ImportName)}
    {file : OutputFile} (fresh : file.manifest = []) {entry : String × List ImportName}
    (mem : entry ∈ (requests.foldl (fun file r => file.importing r.1 r.2) file).manifest) :
    ∃ request ∈ requests, request.1 = entry.1 := by
  rcases source_of_mem_importing mem with asked | before
  · exact List.mem_map.mp asked
  · simp [fresh] at before

/-- From a module of which nothing was asked, a file imports nothing. -/
theorem importsFrom_of_absent {file : OutputFile} {source : String}
    (absent : ∀ entry ∈ file.manifest, entry.1 ≠ source) : file.importsFrom source = [] := by
  -- Every import comes from an entry, and no entry is of this module.
  have others : file.imports.filter (fun item => item.source == source) = [] := by
    simp only [List.filter_eq_nil_iff, imports, Manifest.imports, List.mem_map, List.mem_filter]
    rintro item ⟨entry, ⟨inside, -⟩, rfl⟩
    simpa using absent entry inside
  rw [importsFrom, others, List.flatMap_nil]

/-- From a module of which nothing was asked before, a file imports just what it then asks for. -/
theorem importsFrom_importing {file : OutputFile} {source : String} {names : List ImportName}
    (absent : ∀ entry ∈ file.manifest, entry.1 ≠ source) :
    (file.importing source names).importsFrom source = Manifest.addNames [] names := by
  -- The new entry stands behind the others, which have nothing of this module.
  have added : (file.importing source names).imports
      = file.imports ++ Manifest.imports [(source, Manifest.addNames [] names)] := by
    simp [imports, importing, Manifest.imports, Manifest.request_of_absent absent]
  have before := importsFrom_of_absent absent
  rw [importsFrom] at before
  rw [importsFrom, added, List.filter_append, List.flatMap_append, before, List.nil_append]
  -- An entry without names is no import, and has no names to give either.
  cases asked : Manifest.addNames [] names with
  | nil => rfl
  | cons item rest => simp [Manifest.imports]

/-- Before the last occurrence of a part that ends a text stands all the rest of it. -/
theorem beforeLast_append {part : List Char} (nonempty : part ≠ []) (base : List Char) :
    beforeLast part (base ++ part) = base := by
  induction base with
  | nil =>
    -- What follows the first character of the part is too short for another occurrence.
    obtain ⟨c, rest, rfl⟩ := List.exists_cons_of_ne_nil nonempty
    have once : ¬ Text.occurs (c :: rest) rest = true := fun found =>
      Nat.not_succ_le_self _ (Text.occurs_iff_infix.mp found).length_le
    simp [beforeLast, once]
  | cons c base ih =>
    -- The ending is still to come, so the character stands before it.
    have later : Text.occurs part (base ++ part) = true :=
      Text.occurs_iff_infix.mpr (List.suffix_append base part).isInfix
    rw [List.cons_append, beforeLast, if_pos later, ih]

/-- The path of a module is the name of its file without the extension. -/
theorem modulePath_of_name {file : OutputFile} (base : String) (named : file.name = base ++ ".ts") :
    file.modulePath = "./" ++ base := by
  rw [modulePath, stem, named, String.toList_append, beforeLast_append (by simp), String.ofList_toList]

end OutputFile

end TypedClient
