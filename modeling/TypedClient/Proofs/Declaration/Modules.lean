import TypedClient.Output
import TypedClient.Proofs.Declaration.TypeNames

/-! The generated files refer to no module of their directory that is not written with them. -/

namespace TypedClient

/-- The module whose exports a declaration passes on, if it is an export. -/
def Declaration.source? : Declaration → Option String
  | .exportAll source | .exportNamed source _ => some source
  | _ => none

/-- What declares something itself passes on nothing. -/
theorem Declaration.source_of_isExport {d : Declaration} (own : d.isExport = false) :
    d.source? = none := by
  cases d <;> simp_all [isExport, source?]

/-- The modules that a file imports from, and those whose exports it passes on. -/
def OutputFile.modules (file : OutputFile) : List String :=
  file.imports.map Import.source ++ file.declarations.filterMap Declaration.source?

/-- A file without exports refers to modules of which it has been asked to import something. -/
theorem OutputFile.exists_entry_of_mem_modules {file : OutputFile} {source : String}
    (own : ∀ d ∈ file.declarations, d.isExport = false) (mem : source ∈ file.modules) :
    ∃ entry ∈ file.manifest, entry.1 = source := by
  -- What is left are the imports, and a module of which nothing was asked has none.
  have silent : file.declarations.filterMap Declaration.source? = [] :=
    List.filterMap_eq_nil_iff.mpr fun d inside => Declaration.source_of_isExport (own d inside)
  simp only [modules, silent, List.append_nil, imports, Manifest.imports, List.map_map,
    List.mem_map, List.mem_filter] at mem
  obtain ⟨entry, ⟨inside, -⟩, same⟩ := mem
  exact ⟨entry, inside, same⟩

/-- The modules of the runtime. -/
def Core.moduleNames (client : ClientKind) : List String :=
  ["ApiError", "ApiRequestOptions", "ApiResult"]
    ++ (if client = .angular then [] else ["CancelablePromise"]) ++ ["OpenAPI", "request"]

/-- The runtime has a file for each of its modules. -/
theorem Core.names_of_files {client : ClientKind} {server version : Value}
    {pages : List (String × String)} (made : Core.files client server version = .ok pages) :
    pages.map Prod.fst = (moduleNames client).map (· ++ ".ts") := by
  simp only [Core.files, Outcome.bind_eq_ok, Outcome.pure_eq_ok] at made
  obtain ⟨settings, -, rfl⟩ := made
  -- Only the module of promises is there for some clients and not for others.
  by_cases angular : client = .angular <;> simp [moduleNames, angular]

namespace Operation

variable {operation : Operation} {ds : List Declaration}

/-- The types of an operation are no exports. -/
theorem isExport_of_declarations (declared : operation.declarations = .ok ds) :
    ∀ d ∈ ds, d.isExport = false := by
  intro d mem
  -- They are aliases, as each of them has the name of one.
  have named : d.aliasName? ∈ ds.map Declaration.aliasName? := List.mem_map_of_mem mem
  rw [aliasNames_of_declarations declared] at named
  obtain ⟨name, -, same⟩ := List.mem_map.mp named
  cases d <;> simp_all [Declaration.aliasName?, Declaration.isExport]

end Operation

namespace Client

variable {document : Value} {client : Client} {config : Config}

/-- The declarations of the models are no exports. -/
theorem isExport_of_modelDeclarations {ds : List Declaration}
    (declared : client.modelDeclarations config = .ok ds) : ∀ d ∈ ds, d.isExport = false := by
  simp only [modelDeclarations, Outcome.bind_eq_ok, Outcome.pure_eq_ok] at declared
  obtain ⟨each, made, rfl⟩ := declared
  -- An export is neither a type nor an object of values.
  have types (d : Declaration) (named : d.typeName? ≠ none) : d.isExport = false := by
    cases d <;> simp_all [Declaration.typeName?, Declaration.isExport]
  exact Outcome.forall_mem_flatten
    (fun _ _ => Model.forall_mem_declarations types fun _ _ _ _ => rfl) made

/-- The declarations of the operations are no exports. -/
theorem isExport_of_operationDeclarations {ds : List Declaration}
    (declared : client.operationDeclarations config = .ok ds) : ∀ d ∈ ds, d.isExport = false := by
  by_cases plain : config.client = .fastify
  · -- The routes are declared as two aliases, whatever they are.
    simp only [operationDeclarations, plain, if_true] at declared
    split at declared
    · cases declared
      exact List.forall_mem_nil _
    · simp only [Route.declarations, Outcome.bind_eq_ok, Outcome.pure_eq_ok] at declared
      obtain ⟨members, -, rfl⟩ := declared
      simp [Declaration.isExport]
  · obtain ⟨each, made, rfl⟩ := operationDeclarations_eq_ok plain declared
    exact Outcome.forall_mem_flatten (fun _ _ => Operation.isExport_of_declarations) made

/-- The packages that generated files import from. -/
def packages : List String :=
  ["@angular/core", "@angular/common/http", "rxjs", "fastify"]

/-- The modules that generated files may refer to: packages, the runtime, and files that declare
something. -/
inductive Offers (config : Config) (files : List OutputFile) : String → Prop
  | package {source : String} (listed : source ∈ packages) : Offers config files source
  | runtime {source : String}
    (listed : source ∈ (Core.moduleNames config.client).map ("./core/" ++ ·)) :
    Offers config files source
  | file {file : OutputFile} (listed : file ∈ files) (declares : file.isEmpty = false) :
    Offers config files file.modulePath

variable {files : List OutputFile} {file : OutputFile}

/-- What every file of services imports is offered, whatever the services are. -/
theorem offers_runtimeImports : ∀ entry ∈ runtimeImports config, Offers config files entry.1 := by
  -- The modules depend on two choices, and each combination of them is a list of fixed names.
  have known : ∀ entry ∈ runtimeImports config, entry.1 ∈ packages ∨
      entry.1 ∈ (Core.moduleNames config.client).map ("./core/" ++ ·) := by
    by_cases angular : config.client = .angular <;> by_cases whole : config.response = .response <;>
      simp [runtimeImports, packages, Core.moduleNames, angular, whole]
  intro entry mem
  exact (known entry mem).elim .package .runtime

/-- The exports of the runtime are offered by it. -/
theorem offers_runtimeExports :
    ∀ source ∈ (runtimeExports config).filterMap Declaration.source?, Offers config files source := by
  have known : ∀ source ∈ (runtimeExports config).filterMap Declaration.source?,
      source ∈ (Core.moduleNames config.client).map ("./core/" ++ ·) := by
    by_cases angular : config.client = .angular <;> by_cases whole : config.response = .response <;>
      simp [runtimeExports, Core.moduleNames, Declaration.source?, angular, whole]
  intro source mem
  exact .runtime (known source mem)

/-- The file of the schemas has its name and refers to no module. -/
theorem schemasFile_eq_ok (built : schemasFile document = .ok file) :
    file.name = "schemas.gen.ts" ∧ file.modules = [] := by
  simp only [schemasFile, Outcome.bind_eq_ok, Outcome.pure_eq_ok] at built
  obtain ⟨_, -, schemas, -, declarations, made, rfl⟩ := built
  have own : ∀ d ∈ declarations, d.isExport = false := by
    intro d mem
    obtain ⟨entry, -, declared⟩ := Outcome.exists_item made mem
    simp only [schemaDeclaration, Outcome.bind_eq_ok, Outcome.pure_eq_ok] at declared
    obtain ⟨name, -, rfl⟩ := declared
    rfl
  refine ⟨rfl, List.eq_nil_iff_forall_not_mem.mpr fun source mem => ?_⟩
  obtain ⟨entry, listed, -⟩ := OutputFile.exists_entry_of_mem_modules own mem
  cases listed

/-- The file of the types refers to a package at most. -/
theorem offers_of_typesFile (built : client.typesFile config = .ok file) :
    ∀ source ∈ file.modules, Offers config files source := by
  obtain ⟨-, models, aliases, modelsMade, aliasesMade, held⟩ := typesFile_eq_ok built
  have own : ∀ d ∈ file.declarations, d.isExport = false := by
    rw [held, List.forall_mem_append]
    exact ⟨isExport_of_modelDeclarations modelsMade, isExport_of_operationDeclarations aliasesMade⟩
  intro source mem
  obtain ⟨entry, listed, rfl⟩ := OutputFile.exists_entry_of_mem_modules own mem
  simp only [typesFile, Outcome.bind_eq_ok, Outcome.pure_eq_ok] at built
  obtain ⟨_, -, _, -, rfl⟩ := built
  -- Only the handlers of routes are typed by a package.
  split at listed
  · obtain rfl := List.mem_singleton.mp listed
    exact .package (by simp [packages])
  · cases listed

/-- The file of the services has its name whatever it imports. -/
theorem name_of_servicesFile {types : Option OutputFile}
    (built : client.servicesFile config types = .ok file) : file.name = "services.gen.ts" := by
  obtain ⟨classes, -, ⟨-, rfl⟩ | ⟨_, -, -, rfl⟩⟩ := servicesFile_eq_ok built
  · exact name_runtimeFile classes
  · exact name_runtimeFile classes

/-- The file of the services refers to the runtime and to the types, if any are declared. -/
theorem offers_of_servicesFile {types : Option OutputFile} (held : types.toList ⊆ files)
    (built : client.servicesFile config types = .ok file) :
    ∀ source ∈ file.modules, Offers config files source := by
  have own : ∀ d ∈ file.declarations, d.isExport = false := by
    intro d mem
    obtain ⟨service, -, made⟩ := Outcome.exists_item (classes_of_servicesFile built) mem
    obtain ⟨class_, rfl, -⟩ := methods_of_classDeclaration made
    rfl
  -- Before the types are asked for, nothing but the runtime has been.
  have runtime (classes : List Declaration) : ∀ entry ∈ (runtimeFile config classes).manifest,
      Offers config files entry.1 := by
    intro entry listed
    obtain ⟨known, inside, same⟩ := exists_import_of_mem_runtimeFile listed
    exact same ▸ offers_runtimeImports known inside
  intro source mem
  obtain ⟨entry, listed, rfl⟩ := OutputFile.exists_entry_of_mem_modules own mem
  obtain ⟨classes, -, ⟨-, rfl⟩ | ⟨file, given, declares, rfl⟩⟩ := servicesFile_eq_ok built
  · exact runtime classes entry listed
  · -- The types are asked for last, and only if there are any.
    rcases Manifest.source_of_mem_request listed with asked | before
    · exact asked ▸ .file (held (Option.mem_toList.mpr given)) declares
    · obtain ⟨known, inside, same⟩ := List.mem_map.mp before
      exact same ▸ runtime classes known inside

/-- The index refers to the runtime and to the files that declare something. -/
theorem offers_of_indexFile {others : List OutputFile} (held : others ⊆ files) :
    ∀ source ∈ (indexFile config others).modules, Offers config files source := by
  intro source mem
  -- The index imports nothing, so its modules are those that it exports again: of the runtime, or other files.
  have nothing : (indexFile config others).imports = [] := rfl
  rw [OutputFile.modules, nothing, List.map_nil, List.nil_append, indexFile,
    List.filterMap_append, List.mem_append] at mem
  rcases mem with runtime | other
  · split at runtime
    · exact offers_runtimeExports source runtime
    · cases runtime
  · simp only [List.mem_filterMap, List.mem_map, List.mem_filter] at other
    obtain ⟨_, ⟨file, ⟨inside, declares⟩, rfl⟩, same⟩ := other
    cases same
    exact .file (held inside) (by simpa using declares)

/-- The pages of the runtime are its modules in a directory of their own. -/
theorem names_of_corePages {pages : List Page} (made : client.corePages config = .ok pages) :
    pages.map Prod.fst
      = (Core.moduleNames config.client).map fun name => "core/" ++ (name ++ ".ts") := by
  simp only [corePages, Outcome.bind_eq_ok, Outcome.pure_eq_ok] at made
  obtain ⟨runtime, made, rfl⟩ := made
  calc (runtime.map fun file => ("core/" ++ file.1, file.2)).map Prod.fst
      = (runtime.map Prod.fst).map ("core/" ++ ·) := by rw [List.map_map, List.map_map]; rfl
    _ = (Core.moduleNames config.client).map fun name => "core/" ++ (name ++ ".ts") := by
      rw [Core.names_of_files made, List.map_map]; rfl

/-- With the runtime, its pages are written, and each file that declares something under its name. -/
theorem names_of_render {pages : List Page} (exportsCore : config.exportCore.truthy = true)
    (rendered : client.render files config = .ok pages) :
    pages.map Prod.fst
      = ((Core.moduleNames config.client).map fun name => "core/" ++ (name ++ ".ts"))
        ++ (files.filter fun file => !file.isEmpty).map OutputFile.name := by
  simp only [render, exportsCore, if_true, Outcome.bind_eq_ok, Outcome.pure_eq_ok] at rendered
  obtain ⟨core, coreMade, own, ownMade, rfl⟩ := rendered
  have ownNames : own.map Prod.fst = (files.filter fun file => !file.isEmpty).map OutputFile.name := by
    refine Outcome.map_of_mapM OutputFile.name Prod.fst ownMade fun file page made => ?_
    simp only [renderPage, Outcome.bind_eq_ok, Outcome.pure_eq_ok] at made
    obtain ⟨text, -, rfl⟩ := made
    rfl
  -- The runtime comes first, and then the files in their order.
  rw [List.map_append, names_of_corePages coreMade, ownNames]

/-- A module of the directory that is offered is written. -/
theorem Offers.mem_names {pages : List Page} {base : String}
    (offers : Offers config files ("./" ++ base)) (exportsCore : config.exportCore.truthy = true)
    (named : ∀ file ∈ files, ∃ base, file.name = base ++ ".ts")
    (rendered : client.render files config = .ok pages) : base ++ ".ts" ∈ pages.map Prod.fst := by
  rw [names_of_render exportsCore rendered, List.mem_append]
  -- The cases are those of the module, so its path must stand by itself.
  generalize path : "./" ++ base = source at offers
  cases offers with
  | package listed =>
    -- The name of a package does not begin like a path.
    have begins := congrArg String.toList path
    simp only [packages, List.mem_cons, List.not_mem_nil, or_false] at listed
    rcases listed with rfl | rfl | rfl | rfl <;> simp at begins
  | runtime listed =>
    obtain ⟨name, inside, rfl⟩ := List.mem_map.mp listed
    obtain rfl : base = "core/" ++ name := by
      rwa [show "./core/" = "./" ++ "core/" from rfl, String.append_assoc,
        String.append_right_inj] at path
    exact .inl (List.mem_map.mpr ⟨name, inside, (String.append_assoc ..).symm⟩)
  | file listed declares =>
    obtain ⟨own, ownNamed⟩ := named _ listed
    obtain rfl : base = own := by
      rwa [OutputFile.modulePath_of_name own ownNamed, String.append_right_inj] at path
    exact .inr (List.mem_map.mpr ⟨_, List.mem_filter.mpr ⟨listed, by simp [declares]⟩, ownNamed⟩)

/-- The files of a client are those that are wanted of three, and the index of these. -/
theorem exists_parts {files : List (FileRole × OutputFile)}
    (compiled : Client.files document client config = .ok files) :
    ∃ schemas types services : Option OutputFile,
      (∀ file ∈ schemas, schemasFile document = .ok file) ∧
      (∀ file ∈ types, client.typesFile config = .ok file) ∧
      (∀ file ∈ services, client.servicesFile config types = .ok file) ∧
      files.map Prod.snd = (schemas.toList ++ types.toList ++ services.toList)
        ++ [indexFile config (schemas.toList ++ types.toList ++ services.toList)] := by
  simp only [Client.files, Outcome.ite_bind_eq_ok, Outcome.pure_eq_ok] at compiled
  obtain ⟨schemas, schemasMade, types, typesMade, services, servicesMade, rfl⟩ := compiled
  exact ⟨schemas, types, services, fun _ => Outcome.eq_ok_of_optional schemasMade,
    fun _ => Outcome.eq_ok_of_optional typesMade, fun _ => Outcome.eq_ok_of_optional servicesMade,
    by simp [Function.comp_def]⟩

/-- Each file of a client has the extension of its kind, and refers to offered modules only. -/
theorem offers_of_files {files : List (FileRole × OutputFile)}
    (compiled : Client.files document client config = .ok files) :
    ∀ file ∈ files.map Prod.snd, (∃ base, file.name = base ++ ".ts") ∧
      ∀ source ∈ file.modules, Offers config (files.map Prod.snd) source := by
  obtain ⟨schemas, types, services, schemasMade, typesMade, servicesMade, parts⟩ :=
    exists_parts compiled
  rw [parts]
  intro file mem
  -- Each file brings its name and what it refers to, whether or not the others are there.
  simp only [List.mem_append, Option.mem_toList, List.mem_singleton] at mem
  rcases mem with ((ofSchemas | ofTypes) | ofServices) | rfl
  · have built := schemasMade file ofSchemas
    obtain ⟨named, silent⟩ := schemasFile_eq_ok built
    exact ⟨⟨"schemas.gen", named⟩, by simp [silent]⟩
  · have built := typesMade file ofTypes
    exact ⟨⟨"types.gen", name_of_typesFile built⟩, offers_of_typesFile built⟩
  · have built := servicesMade file ofServices
    exact ⟨⟨"services.gen", name_of_servicesFile built⟩, offers_of_servicesFile (by simp) built⟩
  · exact ⟨⟨"index", rfl⟩, offers_of_indexFile (List.subset_append_left _ _)⟩

/--
The files of a client refer to no module of their directory that is not written with them.

This holds of every file that is made, written or not, whichever files are left empty.
-/
theorem modules_written {files : List (FileRole × OutputFile)} {pages : List Page}
    (exportsCore : config.exportCore.truthy = true)
    (compiled : Client.files document client config = .ok files)
    (rendered : client.render (files.map Prod.snd) config = .ok pages) :
    ∀ file ∈ files, ∀ base, "./" ++ base ∈ file.2.modules → base ++ ".ts" ∈ pages.map Prod.fst := by
  have offered := offers_of_files compiled
  intro file mem base refers
  have offers := (offered file.2 (List.mem_map_of_mem mem)).2 _ refers
  exact offers.mem_names exportsCore (fun file mem => (offered file mem).1) rendered

/-- The index of a client without operations, which leaves out the empty file of the services. -/
theorem modules_written_without_services :
    let document : Value := .map [(.text "swagger", "2.0"), (.text "definitions", .map [
      (.text "Pet", .map [(.text "enum", .list ["cat", "dog"])])])]
    let config : Config := { response := .response, exportSchemas := .bool true }
    let bases := ["core/ApiError", "core/ApiResult", "core/CancelablePromise", "core/OpenAPI",
      "schemas.gen", "types.gen"]
    ∃ client files pages index, ofDocument document config = .ok client ∧
      config.exportCore.truthy = true ∧ Client.files document client config = .ok files ∧
      client.render (files.map Prod.snd) config = .ok pages ∧ (FileRole.index, index) ∈ files ∧
      index.modules = bases.map ("./" ++ ·) ∧ ∀ base ∈ bases, base ++ ".ts" ∈ pages.map Prod.fst := by
  intro document config bases
  obtain ⟨client, files, built, compiled, seen⟩ := exists_files_of_any document config
    (p := fun client files => (client.render (files.map Prod.snd) config).toOption.any (fun _ => true) &&
      files.any fun file => decide (file.1 = .index ∧ file.2.modules = bases.map ("./" ++ ·)))
    (by decide +kernel)
  simp only [Bool.and_eq_true, List.any_eq_true, decide_eq_true_eq] at seen
  obtain ⟨tested, ⟨role, index⟩, listed, rfl, refers⟩ := seen
  obtain ⟨pages, rendered, -⟩ := Outcome.exists_of_any tested
  have exportsCore : config.exportCore.truthy = true := by decide
  refine ⟨client, files, pages, index, built, exportsCore, compiled, rendered, listed, refers, ?_⟩
  intro base mem
  have inside : "./" ++ base ∈ index.modules := refers ▸ List.mem_map_of_mem mem
  exact modules_written exportsCore compiled rendered _ listed base inside

end Client

end TypedClient
