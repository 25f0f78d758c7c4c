import TypedClient.Declaration.Files
import TypedClient.Proofs.Declaration.Services
import TypedClient.Proofs.TypeScript.File

/-! The file of the services and the file of the types speak of the same types. -/

namespace TypedClient

/-- The name that an alias declares. -/
def Declaration.aliasName? : Declaration → Option String
  | .typeAlias name _ _ => some name
  | _ => none

/-- The method of an operation fits the type literal that is declared for its parameters. -/
def Operation.Agrees (config : Config) (declarations : List Declaration) (operation : Operation)
    (method : Method) : Prop :=
  ∃ members, operation.DeclaresData declarations members ∧ method.Fits config members

/-- A service is a class with one method for each operation, which fits the declared types. -/
def Service.Agrees (config : Config) (declarations : List Declaration) (service : Service)
    (declaration : Declaration) : Prop :=
  ∃ class_ : ClassDeclaration, declaration = .ofClass class_ ∧
    List.Forall₂ (Operation.Agrees config declarations) service.operations class_.methods

/--
What the files of the types and of the services of a client have to agree on.

The services import just the aliases that are declared for the operations, once each and in their
order, and every method reads its parameters as members of the type literal declared for them.
-/
def Client.FilesAgree (client : Client) (config : Config) (types services : OutputFile) : Prop :=
  ∃ (models aliases : List Declaration) (names : List String),
    client.modelDeclarations config = .ok models ∧
    client.operationDeclarations config = .ok aliases ∧
    types.declarations = models ++ aliases ∧
    aliases.map Declaration.aliasName? = names.map some ∧
    services.importsFrom "./types.gen" = names.eraseDups.map Client.typeOnly ∧
    List.Forall₂ (Service.Agrees config aliases) client.services services.declarations

namespace Operation

variable {operation : Operation} {declarations : List Declaration}

/-- An operation without parameters declares no literal, and any other one whose members are theirs. -/
theorem dataDeclaration_eq_ok (declared : operation.dataDeclaration = .ok declarations) :
    ∃ members, operation.parameters.mapM Parameter.member = .ok members ∧
      declarations = if operation.parameters = [] then []
        else [.typeAlias operation.dataTypeName (.object members) []] := by
  -- Without parameters the list of members is empty as well, so the same statement holds.
  simp only [dataDeclaration, List.isEmpty_iff] at declared
  split at declared
  · next none =>
    cases declared
    exact ⟨[], by simp [none], by simp [none]⟩
  · next given =>
    simp only [Outcome.bind_eq_ok, Outcome.pure_eq_ok] at declared
    obtain ⟨members, made, rfl⟩ := declared
    exact ⟨members, made, by simp [given]⟩

/-- An operation declares just the aliases that its method imports. -/
theorem aliasNames_of_declarations (declared : operation.declarations = .ok declarations) :
    declarations.map Declaration.aliasName? = operation.typeImports.map some := by
  simp only [Operation.declarations, Outcome.bind_eq_ok, Outcome.pure_eq_ok] at declared
  obtain ⟨data, dataMade, response, responseMade, rfl⟩ := declared
  -- The literal for the parameters is declared under the condition under which it is imported.
  have ofData : data.map Declaration.aliasName?
      = (if operation.parameters.isEmpty then [] else [operation.dataTypeName]).map some := by
    obtain ⟨members, -, rfl⟩ := dataDeclaration_eq_ok dataMade
    by_cases none : operation.parameters = [] <;> simp [none, Declaration.aliasName?]
  -- So is the type of the response.
  have ofResponse : response.map Declaration.aliasName?
      = (if operation.results.isEmpty then [] else [operation.responseTypeName]).map some := by
    simp only [responseDeclaration] at responseMade
    split at responseMade
    · next none =>
      cases responseMade
      simp [none]
    · next given =>
      simp only [Outcome.bind_eq_ok, Outcome.pure_eq_ok] at responseMade
      obtain ⟨types, -, rfl⟩ := responseMade
      simp [given, Declaration.aliasName?]
  rw [List.map_append, ofData, ofResponse, ← List.map_append, typeImports]

/-- The method of an operation fits whatever declarations hold those of the operation. -/
theorem agrees_of_declarations {config : Config} {method : Method}
    (made : operation.toMethod config = .ok method) {own : List Declaration}
    (declared : operation.declarations = .ok own) (held : own ⊆ declarations) :
    operation.Agrees config declarations method := by
  simp only [Operation.declarations, Outcome.bind_eq_ok, Outcome.pure_eq_ok] at declared
  obtain ⟨data, dataMade, response, -, rfl⟩ := declared
  obtain ⟨members, each, rfl⟩ := dataDeclaration_eq_ok dataMade
  refine ⟨members, ?_, fits_of_mapM made each⟩
  -- The literal is among the own declarations, and these are among all of them.
  by_cases none : operation.parameters = []
  · rw [none] at each
    simp only [none, if_true] at dataMade
    simp only [DeclaresData, none, if_true]
    exact ⟨dataMade, (Outcome.pure_eq_ok.mp each).symm⟩
  · simp only [none, if_false] at dataMade held
    simp only [DeclaresData, none, if_false]
    exact ⟨dataMade, held (by simp)⟩

end Operation

namespace Client

variable {document : Value} {client : Client} {config : Config}

/-- Only a client without service classes has its types as a map of routes. -/
theorem client_ne_fastify (exportsServices : config.exportsServices = true) :
    config.client ≠ .fastify := by
  -- For that client the switch is turned off if it was on, and else it is off already.
  intro isFastify
  simp only [Config.exportsServices, Config.servicesSwitch, isFastify] at exportsServices
  split at exportsServices <;> simp_all [Value.truthy, Scalar.truthy]

/-- The types of the operations are declared one operation after the other. -/
theorem operationDeclarations_eq_ok (plain : config.client ≠ .fastify)
    {declarations : List Declaration}
    (declared : client.operationDeclarations config = .ok declarations) :
    ∃ each, client.operations.mapM Operation.declarations = .ok each ∧
      declarations = each.flatten := by
  -- A client without services declares nothing, which is also what its operations declare together.
  simp only [operationDeclarations, plain, if_false] at declared
  split at declared
  · next none =>
    cases declared
    exact ⟨[], by simp [operations, List.isEmpty_iff.mp none], rfl⟩
  · simp only [Outcome.bind_eq_ok, Outcome.pure_eq_ok] at declared
    obtain ⟨each, made, rfl⟩ := declared
    exact ⟨each, made, rfl⟩

/-- The aliases of the operations are those that their methods import. -/
theorem aliasNames_of_operationDeclarations (plain : config.client ≠ .fastify)
    {declarations : List Declaration}
    (declared : client.operationDeclarations config = .ok declarations) :
    declarations.map Declaration.aliasName?
      = (client.operations.flatMap Operation.typeImports).map some := by
  obtain ⟨each, made, rfl⟩ := operationDeclarations_eq_ok plain declared
  rw [Outcome.mapM_eq_ok] at made
  clear declared
  -- The operations are gone through with their declarations, so they must not depend on the client.
  generalize client.operations = operations at made
  induction made with
  | nil => rfl
  | cons head _ ih =>
    rw [List.flatten_cons, List.map_append, ih, Operation.aliasNames_of_declarations head,
      List.flatMap_cons, List.map_append]

/-- The file of the types has its name whatever it imports. -/
theorem name_of_typesFile {types : OutputFile} (built : client.typesFile config = .ok types) :
    types.name = "types.gen.ts" := by
  simp only [typesFile, Outcome.bind_eq_ok, Outcome.pure_eq_ok] at built
  obtain ⟨models, -, aliases, -, rfl⟩ := built
  split <;> rfl

/-- The file of the types holds the models and then the types of the operations. -/
theorem typesFile_eq_ok {types : OutputFile} (built : client.typesFile config = .ok types) :
    types.modulePath = "./types.gen" ∧ ∃ models aliases,
      client.modelDeclarations config = .ok models ∧
        client.operationDeclarations config = .ok aliases ∧
          types.declarations = models ++ aliases := by
  refine ⟨OutputFile.modulePath_of_name "types.gen" (name_of_typesFile built), ?_⟩
  simp only [typesFile, Outcome.bind_eq_ok, Outcome.pure_eq_ok] at built
  obtain ⟨models, modelsMade, aliases, aliasesMade, rfl⟩ := built
  -- The import that one of the clients needs leaves the declarations as they are.
  refine ⟨models, aliases, modelsMade, aliasesMade, ?_⟩
  split <;> rfl

/-- None of the modules of the runtime is that of the types. -/
theorem runtimeImports_ne_types (config : Config) :
    ∀ entry ∈ runtimeImports config, entry.1 ≠ "./types.gen" := by
  -- The modules depend on two choices, and each combination of them is a list of fixed names.
  by_cases angular : config.client = .angular <;> by_cases whole : config.response = .response <;>
    simp [runtimeImports, angular, whole]

/-- The file of the services as long as it imports the runtime only. -/
def runtimeFile (config : Config) (classes : List Declaration) : OutputFile :=
  (runtimeImports config).foldl (fun file entry => file.importing entry.1 entry.2)
    { name := "services.gen.ts", declarations := classes }

/-- The file of the services has its name whatever it imports of the runtime. -/
@[simp] theorem name_runtimeFile (classes : List Declaration) :
    (runtimeFile config classes).name = "services.gen.ts" :=
  OutputFile.name_foldl_importing _ _

/-- The imports of the runtime leave the classes as they are. -/
@[simp] theorem declarations_runtimeFile (classes : List Declaration) :
    (runtimeFile config classes).declarations = classes :=
  OutputFile.declarations_foldl_importing _ _

/-- All imports of the runtime are known before the services are. -/
theorem exists_import_of_mem_runtimeFile {classes : List Declaration}
    {entry : String × List ImportName} (mem : entry ∈ (runtimeFile config classes).manifest) :
    ∃ known ∈ runtimeImports config, known.1 = entry.1 :=
  OutputFile.exists_request_of_mem_importing rfl mem

/-- The file of the services holds their classes and imports the runtime, and then the types of the
operations if a file of types is given that declares any. -/
theorem servicesFile_eq_ok {types : Option OutputFile} {services : OutputFile}
    (built : client.servicesFile config types = .ok services) :
    ∃ classes, client.services.mapM (fun service => service.classDeclaration config) = .ok classes ∧
      ((∀ file ∈ types, file.isEmpty = true) ∧ services = runtimeFile config classes ∨
        ∃ file ∈ types, file.isEmpty = false ∧
          services = (runtimeFile config classes).importing file.modulePath
            ((client.operations.flatMap Operation.typeImports).map typeOnly)) := by
  simp only [servicesFile, Outcome.bind_eq_ok] at built
  obtain ⟨classes, made, built⟩ := built
  refine ⟨classes, made, ?_⟩
  -- The types come last, so the runtime has been imported before they are looked at.
  cases types with
  | none => exact .inl ⟨by simp, (Outcome.pure_eq_ok.mp built).symm⟩
  | some file =>
    simp only at built
    split at built
    · next empty => exact .inl ⟨by simpa using empty, (Outcome.pure_eq_ok.mp built).symm⟩
    · next declares =>
      exact .inr ⟨file, rfl, by simpa using declares, (Outcome.pure_eq_ok.mp built).symm⟩

/-- The imports of the runtime leave out the module of the types. -/
theorem runtime_absent (classes : List Declaration) :
    ∀ entry ∈ (runtimeFile config classes).manifest, entry.1 ≠ "./types.gen" := by
  intro entry mem
  obtain ⟨known, inside, same⟩ := exists_import_of_mem_runtimeFile mem
  exact same ▸ runtimeImports_ne_types config known inside

/-- The file of the services imports the types of its operations, once each. -/
theorem importsFrom_of_servicesFile {types services : OutputFile}
    (path : types.modulePath = "./types.gen")
    (unused : types.isEmpty = true → client.operations.flatMap Operation.typeImports = [])
    (built : client.servicesFile config (some types) = .ok services) :
    services.importsFrom "./types.gen"
      = (client.operations.flatMap Operation.typeImports).eraseDups.map typeOnly := by
  -- An empty file of types is not imported, and then there are no types to import either.
  obtain ⟨classes, -, ⟨empty, rfl⟩ | ⟨_, same, -, rfl⟩⟩ := servicesFile_eq_ok built
  · rw [unused (empty types rfl), OutputFile.importsFrom_of_absent (runtime_absent classes)]
    rfl
  · cases same
    rw [path, OutputFile.importsFrom_importing (runtime_absent classes),
      Manifest.addNames_map fun _ => rfl]

/-- The file of the services holds the class of each service. -/
theorem classes_of_servicesFile {types : Option OutputFile} {services : OutputFile}
    (built : client.servicesFile config types = .ok services) :
    client.services.mapM (fun service => service.classDeclaration config)
      = .ok services.declarations := by
  -- Whatever is imported on the way, the declarations stay as they are.
  obtain ⟨classes, made, ⟨-, rfl⟩ | ⟨_, -, -, rfl⟩⟩ := servicesFile_eq_ok built
  · rw [made, declarations_runtimeFile]
  · rw [made, OutputFile.importing, declarations_runtimeFile]

/-- A class has one method for each operation of its service, in their order. -/
theorem methods_of_classDeclaration {service : Service} {declaration : Declaration}
    (made : service.classDeclaration config = .ok declaration) :
    ∃ class_ : ClassDeclaration, declaration = .ofClass class_ ∧
      List.Forall₂ (fun operation method => operation.toMethod config = .ok method)
        service.operations class_.methods := by
  simp only [Service.classDeclaration, Outcome.bind_eq_ok, Outcome.pure_eq_ok,
    Outcome.mapM_eq_ok] at made
  obtain ⟨methods, each, name, -, rfl⟩ := made
  exact ⟨_, rfl, each⟩

/-- Each class has the methods of its service, and they fit the types of the operations. -/
theorem forall₂_agrees {types : Option OutputFile} {services : OutputFile}
    {aliases declarations : List Declaration} (plain : config.client ≠ .fastify)
    (declared : client.operationDeclarations config = .ok aliases) (held : aliases ⊆ declarations)
    (built : client.servicesFile config types = .ok services) :
    List.Forall₂ (Service.Agrees config declarations) client.services services.declarations := by
  obtain ⟨each, eachMade, rfl⟩ := operationDeclarations_eq_ok plain declared
  -- The declarations of each operation are a part of all of them.
  have known : ∀ service ∈ client.services, ∀ operation ∈ service.operations,
      ∃ own, operation.declarations = .ok own ∧ own ⊆ declarations := by
    intro service inside operation listed
    obtain ⟨own, mem, made⟩ :=
      Outcome.exists_result eachMade (List.mem_flatMap_of_mem inside listed)
    exact ⟨own, made, fun d inOwn => held (List.mem_flatten_of_mem mem inOwn)⟩
  have classes := Outcome.mapM_eq_ok.mp (classes_of_servicesFile built)
  -- Services go with classes, and inside of them operations go with methods.
  refine ((List.forall₂_and_left _ _).mpr ⟨known, classes⟩).imp ?_
  rintro service declaration ⟨known, made⟩
  obtain ⟨class_, rfl, methods⟩ := methods_of_classDeclaration made
  refine ⟨class_, rfl, ((List.forall₂_and_left _ _).mpr ⟨known, methods⟩).imp ?_⟩
  rintro operation method ⟨⟨own, ownMade, within⟩, made⟩
  exact Operation.agrees_of_declarations made ownMade within

/-- An exported file is built with the types in hand, if they are exported too. -/
theorem files_eq_ok {files : List (FileRole × OutputFile)}
    (exportsTypes : config.exportTypes.truthy = true)
    (exportsServices : config.exportsServices = true)
    (built : Client.files document client config = .ok files) :
    ∃ types services, client.typesFile config = .ok types ∧
      client.servicesFile config (some types) = .ok services ∧
        (FileRole.types, types) ∈ files ∧ (FileRole.services, services) ∈ files := by
  -- The schemas are written or not, which makes no difference for the other two files.
  simp only [Client.files, exportsTypes, exportsServices, if_true] at built
  split at built <;> simp only [Outcome.bind_eq_ok, Outcome.map_eq_ok, Outcome.pure_eq_ok] at built
  · obtain ⟨_, -, _, ⟨types, typesMade, rfl⟩, _, ⟨services, servicesMade, rfl⟩, rfl⟩ := built
    exact ⟨types, services, typesMade, servicesMade, by simp, by simp⟩
  · obtain ⟨_, -, _, ⟨types, typesMade, rfl⟩, _, ⟨services, servicesMade, rfl⟩, rfl⟩ := built
    exact ⟨types, services, typesMade, servicesMade, by simp, by simp⟩

/-- The file of the services and the file of the types agree, whatever the client and the options. -/
theorem services_agree_with_types {files : List (FileRole × OutputFile)}
    (exportsTypes : config.exportTypes.truthy = true)
    (exportsServices : config.exportsServices = true)
    (built : Client.files document client config = .ok files) :
    ∃ types services, (FileRole.types, types) ∈ files ∧ (FileRole.services, services) ∈ files ∧
      client.FilesAgree config types services := by
  have plain := client_ne_fastify exportsServices
  obtain ⟨types, services, typesMade, servicesMade, typesIn, servicesIn⟩ :=
    files_eq_ok exportsTypes exportsServices built
  obtain ⟨path, models, aliases, modelsMade, aliasesMade, held⟩ := typesFile_eq_ok typesMade
  -- Both files are due to the names that the operations import, once in the types and once in the imports.
  have named := aliasNames_of_operationDeclarations plain aliasesMade
  -- A file of types that holds nothing has no aliases, so nothing is missed when it is not imported.
  have unused : types.isEmpty = true → client.operations.flatMap Operation.typeImports = [] := by
    intro empty
    rw [OutputFile.isEmpty, held, List.isEmpty_iff, List.append_eq_nil_iff] at empty
    rw [empty.2] at named
    exact List.map_eq_nil_iff.mp named.symm
  exact ⟨types, services, typesIn, servicesIn, models, aliases, _, modelsMade, aliasesMade, held,
    named, importsFrom_of_servicesFile path unused servicesMade,
    forall₂_agrees plain aliasesMade (fun _ mem => mem) servicesMade⟩

/-- Two operations with one name, a form, a body and a response that is a header. -/
theorem services_agree_with_types_shared_name :
    let operation : Operation := {
      name := "save", service := "Users", method := "POST", path := "/users/\x7bid\x7d"
      declared := [
        { name := "id", prop := "id", location := .path, isRequired := true },
        { name := "pageSize", prop := "page-size", location := .query, default := .int 10 },
        { name := "file", prop := "file", location := .formData }]
      requestBody := some { name := "requestBody", prop := "requestBody", location := .body }
      responses := [{ code := .status 201, isHeader := true, name := "Location" }] }
    let client : Client := {
      services := [{ name := "Users", operations := [operation, { operation with method := "PUT" }] }] }
    ∃ files, Client.files (.map []) client {} = .ok files ∧
      ∃ types services, (FileRole.types, types) ∈ files ∧ (FileRole.services, services) ∈ files ∧
        client.FilesAgree {} types services := by
  intro operation client
  obtain ⟨files, built⟩ : ∃ files, Client.files (.map []) client {} = .ok files := ⟨_, rfl⟩
  exact ⟨files, built, services_agree_with_types (by decide) (by decide) built⟩

end Client

end TypedClient
