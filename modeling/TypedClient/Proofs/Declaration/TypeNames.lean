import TypedClient.Proofs.Client.EnumNames
import TypedClient.Proofs.Declaration.Files

/-! The names that the types of models are declared under, and those that are left without a type. -/

namespace TypedClient

/-- The name of the type that a declaration stands for, if it stands for one. -/
def Declaration.typeName? : Declaration → Option String
  | .typeAlias name _ _ | .interface name _ _ | .enum name _ _ => some name
  | _ => none

namespace Model

variable {style : EnumStyle} {m : Model} {ds : List Declaration} {name : String}

/-- The names of the types that an enum is declared as: its own and, as a true enum, the exported one. -/
def enumTypeNames (style : EnumStyle) (m : Model) : List String :=
  match m.enumName with
  | none => []
  | some name =>
    if style = .typescript then name :: if m.label == name then [] else [m.label] else [m.label]

/-- The names of the types that a model is declared as, those of the enums inside it included. -/
def typeNames (style : EnumStyle) (m : Model) : List String :=
  match m.variant with
  | .enumeration => m.enumTypeNames style
  | .interface | .composition _ => m.label :: m.enums.flatMap (enumTypeNames style)
  | _ => [m.label]

/-- An enum is declared under the name of its model, and as a true enum under the exported name too. -/
theorem mem_enumTypeNames_iff :
    name ∈ m.enumTypeNames style ↔ m.enumName ≠ none ∧
      (m.label = name ∨ style = .typescript ∧ m.enumName = some name) := by
  rw [enumTypeNames]
  cases m.enumName with
  | none => simp
  | some exported => grind

/-- The declarations of an enum have its type names. -/
theorem typeNames_of_enumDeclarations (declared : m.enumDeclarations style = .ok ds) :
    ds.filterMap Declaration.typeName? = m.enumTypeNames style := by
  -- Each style declares the same names whatever the members and the comment of the enum are.
  rw [enumDeclarations] at declared
  rw [enumTypeNames]
  cases given : m.enumName with
  | none =>
    simp only [given] at declared
    cases declared
    rfl
  | some exported =>
    simp only [given, Outcome.bind_eq_ok] at declared
    obtain ⟨members, -, comment, -, declared⟩ := declared
    cases style with
    | typescript =>
      cases declared
      by_cases same : (m.label == exported) = true <;> simp [same, Declaration.typeName?]
    | union =>
      obtain ⟨type, -, declared⟩ := Outcome.bind_eq_ok.mp declared
      cases declared
      rfl
    | javascript =>
      obtain ⟨type, -, declared⟩ := Outcome.bind_eq_ok.mp declared
      cases declared
      rfl

/-- The alias of a model has its name. -/
theorem typeName_of_aliasDeclaration {d : Declaration} (declared : m.aliasDeclaration = .ok d) :
    d.typeName? = some m.label := by
  simp only [aliasDeclaration, Outcome.bind_eq_ok, Outcome.pure_eq_ok] at declared
  obtain ⟨type, -, comment, -, rfl⟩ := declared
  rfl

/-- Declarations that are made model by model have the names of the models, in their order. -/
theorem names_of_mapM {declare : Model → Outcome (List Declaration)}
    {read : Declaration → Option String} {names : Model → List String} {ms : List Model}
    {each : List (List Declaration)} (made : ms.mapM declare = .ok each)
    (named : ∀ m ∈ ms, ∀ ds, declare m = .ok ds → ds.filterMap read = names m) :
    each.flatten.filterMap read = ms.flatMap names := by
  rw [Outcome.mapM_eq_ok] at made
  induction made with
  | nil => rfl
  | cons head _ ih =>
    have later := ih fun m mem => named m (List.mem_cons_of_mem _ mem)
    rw [List.flatten_cons, List.filterMap_append, named _ List.mem_cons_self _ head, later,
      List.flatMap_cons]

/-- The declarations of the enums inside a model have the type names of these. -/
theorem typeNames_of_nestedDeclarations (declared : m.nestedDeclarations style = .ok ds) :
    ds.filterMap Declaration.typeName? = m.enums.flatMap (enumTypeNames style) := by
  simp only [nestedDeclarations, Outcome.bind_eq_ok, Outcome.pure_eq_ok] at declared
  obtain ⟨each, made, rfl⟩ := declared
  exact names_of_mapM made fun _ _ _ => typeNames_of_enumDeclarations

/-- An object is declared under its name, as an alias or as an interface, and then the enums inside. -/
theorem declarations_of_interface (kind : m.variant = .interface)
    (declared : m.declarations style = .ok ds) :
    ∃ own nested, own.typeName? = some m.label ∧ m.nestedDeclarations style = .ok nested ∧
      ds = own :: nested := by
  -- Without properties, or with null beside it, an object is an alias.
  simp only [declarations, kind] at declared
  split at declared
  · simp only [Outcome.bind_eq_ok, Outcome.pure_eq_ok] at declared
    obtain ⟨own, ownMade, nested, nestedMade, rfl⟩ := declared
    exact ⟨own, nested, typeName_of_aliasDeclaration ownMade, nestedMade, rfl⟩
  · simp only [Outcome.bind_eq_ok, Outcome.pure_eq_ok] at declared
    obtain ⟨members, -, comment, -, own, rfl, nested, nestedMade, rfl⟩ := declared
    exact ⟨_, nested, rfl, nestedMade, rfl⟩

/-- The declarations of a model have its type names. -/
theorem typeNames_of_declarations (declared : m.declarations style = .ok ds) :
    ds.filterMap Declaration.typeName? = m.typeNames style := by
  rw [typeNames]
  -- An interface and a composition have their nested enums behind them; all else but an enum is one alias.
  cases kind : m.variant with
  | enumeration =>
    rw [declarations, kind] at declared
    exact typeNames_of_enumDeclarations declared
  | interface =>
    obtain ⟨own, nested, named, nestedMade, rfl⟩ := declarations_of_interface kind declared
    rw [List.filterMap_cons_some named, typeNames_of_nestedDeclarations nestedMade]
  | composition kind =>
    simp only [declarations, kind, Outcome.bind_eq_ok, Outcome.pure_eq_ok] at declared
    obtain ⟨own, ownMade, nested, nestedMade, rfl⟩ := declared
    rw [List.filterMap_cons_some (typeName_of_aliasDeclaration ownMade),
      typeNames_of_nestedDeclarations nestedMade]
  | _ =>
    simp only [declarations, kind, Outcome.bind_eq_ok, Outcome.pure_eq_ok] at declared
    obtain ⟨own, ownMade, rfl⟩ := declared
    rw [List.filterMap_cons_some (typeName_of_aliasDeclaration ownMade), List.filterMap_nil]

section Kinds

variable {P : Declaration → Prop} (types : ∀ d, d.typeName? ≠ none → P d)
  (objects : style = .javascript → ∀ name members comment, P (.constObject name members comment))

include types objects

/-- What holds of all types, and of the objects of values where there are any, holds of what an enum is
declared as. -/
theorem forall_mem_enumDeclarations (declared : m.enumDeclarations style = .ok ds) :
    ∀ d ∈ ds, P d := by
  rw [enumDeclarations] at declared
  cases given : m.enumName with
  | none =>
    simp only [given] at declared
    cases declared
    exact List.forall_mem_nil _
  | some exported =>
    simp only [given, Outcome.bind_eq_ok] at declared
    obtain ⟨members, -, comment, -, declared⟩ := declared
    cases style with
    | typescript =>
      cases declared
      refine List.forall_mem_cons.mpr ⟨types _ (Option.some_ne_none _), fun d mem => types d ?_⟩
      -- The name of the model is an alias of the enum, unless they are the same.
      split at mem
      · cases mem
      · simp [List.mem_singleton.mp mem, Declaration.typeName?]
    | union =>
      obtain ⟨type, -, declared⟩ := Outcome.bind_eq_ok.mp declared
      cases declared
      exact List.forall_mem_singleton.mpr (types _ (Option.some_ne_none _))
    | javascript =>
      obtain ⟨type, -, declared⟩ := Outcome.bind_eq_ok.mp declared
      cases declared
      exact List.forall_mem_cons.mpr
        ⟨types _ (Option.some_ne_none _), List.forall_mem_singleton.mpr (objects rfl exported members comment)⟩

/-- What holds of all types, and of the objects of values where there are any, holds of what a model is
declared as. -/
theorem forall_mem_declarations (declared : m.declarations style = .ok ds) : ∀ d ∈ ds, P d := by
  -- What is declared for the model itself has its name, and what is inside it is an enum.
  have own {d : Declaration} (named : d.typeName? = some m.label) : P d := types d (by simp [named])
  have nested {inner : List Declaration} (made : m.nestedDeclarations style = .ok inner) :
      ∀ d ∈ inner, P d := by
    simp only [nestedDeclarations, Outcome.bind_eq_ok, Outcome.pure_eq_ok] at made
    obtain ⟨each, eachMade, rfl⟩ := made
    exact Outcome.forall_mem_flatten
      (fun _ _ made => forall_mem_enumDeclarations types objects made) eachMade
  cases kind : m.variant with
  | enumeration =>
    rw [declarations, kind] at declared
    exact forall_mem_enumDeclarations types objects declared
  | interface =>
    obtain ⟨d, inner, named, made, rfl⟩ := declarations_of_interface kind declared
    exact List.forall_mem_cons.mpr ⟨own named, nested made⟩
  | composition kind =>
    simp only [declarations, kind, Outcome.bind_eq_ok, Outcome.pure_eq_ok] at declared
    obtain ⟨d, ownMade, inner, made, rfl⟩ := declared
    exact List.forall_mem_cons.mpr ⟨own (typeName_of_aliasDeclaration ownMade), nested made⟩
  | _ =>
    simp only [declarations, kind, Outcome.bind_eq_ok, Outcome.pure_eq_ok] at declared
    obtain ⟨d, ownMade, rfl⟩ := declared
    exact List.forall_mem_singleton.mpr (own (typeName_of_aliasDeclaration ownMade))

end Kinds

/-- A model that can be declared as a whole is declared under its name if it is no enum, and all enums
of it are declared as such. -/
theorem IsDeclarable.mem_typeNames_iff (declarable : m.IsDeclarable) :
    name ∈ m.typeNames style ↔ m.isEnum = false ∧ m.label = name ∨
      ∃ e ∈ m.namedEnums, name ∈ e.enumTypeNames style := by
  -- Objects and compositions declare what is inside them, and are no enums themselves.
  have within := declarable.within
  rw [typeNames, namedEnums, isEnum]
  cases kind : m.variant with
  | interface => simp [eq_comm]
  | composition kind => simp [eq_comm]
  | _ =>
    -- No other model has enums inside it.
    have none : m.enums = [] := by
      by_contra nested
      simpa [kind] using within nested
    simp [none, eq_comm]

end Model

namespace Client

variable {document : Value} {client : Client} {config : Config} {style : EnumStyle} {name : String}

/-- The names of the types that the models of a client are declared as. -/
def typeNames (client : Client) (style : EnumStyle) : List String :=
  client.models.flatMap (Model.typeNames style)

/-- The declarations of all models have the type names of the models. -/
theorem typeNames_of_modelDeclarations {ds : List Declaration}
    (declared : client.modelDeclarations config = .ok ds) :
    ds.filterMap Declaration.typeName? = client.typeNames config.enums := by
  simp only [modelDeclarations, Outcome.bind_eq_ok, Outcome.pure_eq_ok] at declared
  obtain ⟨each, made, rfl⟩ := declared
  exact Model.names_of_mapM made fun _ _ _ => Model.typeNames_of_declarations

/-- The names that the types of the models and of the operations of a client import. -/
def importedNames (client : Client) : List String :=
  client.models.flatMap Model.imports ++ client.operations.flatMap Operation.imports

/--
Whether a name is left without a type because enums share one exported name.

Only enums have the name, and none of them is exported, as an enum of another name has got what they
would be exported as.
Where exported names are types of their own, none of these is the name either.
-/
def Displaced (client : Client) (style : EnumStyle) (name : String) : Prop :=
  (∀ m ∈ client.models, m.label = name → m.isEnum = true ∧ m.enumName = none) ∧
    (∃ e ∈ client.enums, e.label ≠ name ∧ e.enumName = some (exportedEnumName name)) ∧
    (style = .typescript → name ∉ client.enumNames)

instance : Decidable (client.Displaced style name) :=
  inferInstanceAs (Decidable (_ ∧ _ ∧ _))

/-- The types of a client are its models that are no enums, its enums that are exported and, as true
enums, the exported names. -/
theorem mem_typeNames_iff (built : ofDocument document config = .ok client) :
    name ∈ client.typeNames style ↔
      (∃ m ∈ client.models, m.isEnum = false ∧ m.label = name) ∨
        (∃ e ∈ client.enums, e.label = name ∧ e.enumName ≠ none) ∨
          style = .typescript ∧ name ∈ client.enumNames := by
  have registered := (named_enums built).result_eq
  -- The exported names of the enums are just those in the registry.
  have ofEnums : (∃ e ∈ client.enums, name ∈ e.enumTypeNames style) ↔
      (∃ e ∈ client.enums, e.label = name ∧ e.enumName ≠ none) ∨
        style = .typescript ∧ name ∈ client.enumNames := by
    simp only [registered, List.nil_append, List.mem_filterMap, Model.mem_enumTypeNames_iff]
    grind
  rw [← ofEnums]
  simp only [enums, typeNames, List.mem_flatMap]
  -- What is declared for a model is the model itself or one of its enums.
  constructor
  · rintro ⟨m, inside, mem⟩
    rcases (isDeclarable_of_ofDocument built m inside).mem_typeNames_iff.mp mem with
      own | ⟨e, nested, mem⟩
    · exact .inl ⟨m, inside, own⟩
    · exact .inr ⟨e, ⟨m, inside, nested⟩, mem⟩
  · rintro (⟨m, inside, own⟩ | ⟨e, ⟨m, inside, nested⟩, mem⟩)
    · exact ⟨m, inside, (isDeclarable_of_ofDocument built m inside).mem_typeNames_iff.mpr (.inl own)⟩
    · exact ⟨m, inside,
        (isDeclarable_of_ofDocument built m inside).mem_typeNames_iff.mpr (.inr ⟨e, nested, mem⟩)⟩

/-- Enums with one exported name have one name. -/
theorem label_eq_of_enumName_eq (built : ofDocument document config = .ok client) {e other : Model}
    (mem : e ∈ client.enums) (otherMem : other ∈ client.enums) (given : e.enumName = some name)
    (otherGiven : other.enumName = some name) : e.label = other.label := by
  have distinct : (client.enums.filterMap Model.enumName).Nodup := by
    have named := named_enums built
    have nodup := named.nodup .nil
    rwa [named.result_eq, List.nil_append] at nodup
  -- Two enums at different places never have one exported name.
  have apart := List.pairwise_filterMap.mp distinct
  refine List.Pairwise.forall_of_forall_of_flip
    (R := fun e other => e.enumName = some name → other.enumName = some name → e.label = other.label)
    (fun _ _ _ _ => rfl) ?_ ?_ mem otherMem given otherGiven
  · exact apart.imp fun apart given otherGiven => absurd rfl (apart name given name otherGiven)
  · exact apart.imp fun apart given otherGiven => absurd rfl (apart name otherGiven name given)

/-- A displaced name is not that of a type. -/
theorem not_mem_typeNames_of_displaced (built : ofDocument document config = .ok client)
    (displaced : client.Displaced style name) :
    name ∉ client.typeNames style := by
  obtain ⟨refused, ⟨winner, winnerMem, different, won⟩, unused⟩ := displaced
  -- Each of the three ways to be the name of a type is ruled out by its part of being displaced.
  rw [mem_typeNames_iff built]
  rintro (⟨m, inside, other, same⟩ | ⟨e, mem, rfl, exported⟩ | ⟨isTypescript, taken⟩)
  · -- A model that is no enum is not displaced.
    rw [(refused m inside same).1] at other
    cases other
  · -- An enum of the name that is exported would have got what the winner has.
    obtain ⟨exported, given⟩ := Option.ne_none_iff_exists'.mp exported
    have normal := (named_enums built).enumName_eq mem given
    exact different (label_eq_of_enumName_eq built winnerMem mem won (normal ▸ given))
  · exact unused isTypescript taken

/-- A name of a model is that of a type unless it is displaced. -/
theorem displaced_of_not_mem_typeNames (built : ofDocument document config = .ok client)
    (known : ∃ m ∈ client.models, m.label = name)
    (absent : name ∉ client.typeNames style) : client.Displaced style name := by
  rw [mem_typeNames_iff built] at absent
  push Not at absent
  obtain ⟨noOther, refused, unused⟩ := absent
  -- All models of the name are enums, and none of these is exported.
  have isEnum : ∀ m ∈ client.models, m.label = name → m.isEnum = true := by
    intro m inside same
    by_contra other
    exact noOther m inside (by simpa using other) same
  have mem : ∀ m ∈ client.models, m.label = name → m ∈ client.enums := by
    intro m inside same
    exact List.mem_flatMap.mpr ⟨m, inside, by simp [Model.namedEnums, isEnum m inside same]⟩
  refine ⟨fun m inside same => ⟨isEnum m inside same, refused m (mem m inside same) same⟩, ?_, unused⟩
  -- The exported name of such an enum is in the registry, so another enum has got it.
  obtain ⟨m, inside, same⟩ := known
  have named := named_enums built
  have taken : exportedEnumName name ∈ client.enumNames := named.mem_result_iff.mpr
    (.inr ⟨m, mem m inside same, label_ne_empty_of_mem_enums built m (mem m inside same), by rw [same]⟩)
  rw [named.result_eq, List.nil_append] at taken
  obtain ⟨winner, winnerMem, won⟩ := List.mem_filterMap.mp taken
  refine ⟨winner, winnerMem, fun same => ?_, won⟩
  rw [refused winner winnerMem same] at won
  cases won

/-- The file that is written for the types is the one that is made of them. -/
theorem typesFile_of_mem_files {files : List (FileRole × OutputFile)} {types : OutputFile}
    (compiled : Client.files document client config = .ok files)
    (listed : (FileRole.types, types) ∈ files) : client.typesFile config = .ok types := by
  simp only [Client.files, Outcome.ite_bind_eq_ok, Outcome.pure_eq_ok] at compiled
  obtain ⟨schemas, -, exported, made, services, -, rfl⟩ := compiled
  -- Of all files, only the one of the types has their role.
  obtain rfl : exported = some types := by simpa using listed
  exact Outcome.eq_ok_of_optional made rfl

/-- What is tested of the client of a document and of its files holds of those that there are. -/
theorem exists_files_of_any (document : Value) (config : Config)
    {p : Client → List (FileRole × OutputFile) → Bool} (tested : (do
      let client ← ofDocument document config
      let files ← Client.files document client config
      return (client, files) : Outcome _).toOption.any (fun made => p made.1 made.2) = true) :
    ∃ client files, ofDocument document config = .ok client ∧
      Client.files document client config = .ok files ∧ p client files = true := by
  obtain ⟨⟨client, files⟩, done, holds⟩ := Outcome.exists_of_any tested
  simp only [Outcome.bind_eq_ok, Outcome.pure_eq_ok] at done
  obtain ⟨_, built, _, compiled, same⟩ := done
  cases same
  exact ⟨client, files, built, compiled, holds⟩

/--
The file of the types declares every name that is imported, unless the name is displaced.

All imported names have to be those of models.
A displaced name is declared for none of the models.
-/
theorem declared_iff_not_displaced {files : List (FileRole × OutputFile)} {types : OutputFile}
    (built : ofDocument document config = .ok client)
    (compiled : Client.files document client config = .ok files)
    (listed : (FileRole.types, types) ∈ files)
    (closed : ∀ name ∈ client.importedNames, ∃ m ∈ client.models, m.label = name) :
    ∃ ofModels ofOperations, client.modelDeclarations config = .ok ofModels ∧
      client.operationDeclarations config = .ok ofOperations ∧
      types.declarations = ofModels ++ ofOperations ∧
      ∀ name ∈ client.importedNames,
        (∃ d ∈ ofModels, d.typeName? = some name) ↔ ¬ client.Displaced config.enums name := by
  -- The names that are declared for the models are known from the models alone.
  obtain ⟨-, ofModels, ofOperations, modelsMade, operationsMade, held⟩ :=
    typesFile_eq_ok (typesFile_of_mem_files compiled listed)
  refine ⟨ofModels, ofOperations, modelsMade, operationsMade, held, fun name mem => ?_⟩
  rw [← List.mem_filterMap, typeNames_of_modelDeclarations modelsMade]
  exact ⟨fun declared displaced => not_mem_typeNames_of_displaced built displaced declared,
    fun held => by_contra fun absent =>
      held (displaced_of_not_mem_typeNames built (closed name mem) absent)⟩

/-- Two enums of one exported name and an object that refers to both, all exported as unions. -/
theorem declared_iff_not_displaced_collision :
    let enum (value : String) : Value := .map [(.text "enum", .list [.text value])]
    let reference (name : String) : Value := .map [(.text "$ref", .text ("#/definitions/" ++ name))]
    let document : Value := .map [(.text "swagger", "2.0"), (.text "definitions", .map [
      (.text "Foo_bar", enum "a"), (.text "FooBar", enum "b"),
      (.text "Pet", .map [(.text "properties", .map [
        (.text "first", reference "Foo_bar"), (.text "second", reference "FooBar")])])])]
    ∃ client files types ofModels, ofDocument document {} = .ok client ∧
      Client.files document client {} = .ok files ∧ (FileRole.types, types) ∈ files ∧
      (∀ name ∈ client.importedNames, ∃ m ∈ client.models, m.label = name) ∧
      client.modelDeclarations {} = .ok ofModels ∧
      (∃ d ∈ ofModels, d.typeName? = some "Foo_bar") ∧ ¬ ∃ d ∈ ofModels, d.typeName? = some "FooBar" := by
  intro enum reference document
  obtain ⟨client, files, built, compiled, seen⟩ := exists_files_of_any document {}
    (p := fun client files =>
      decide (client.importedNames = ["Foo_bar", "FooBar"]) &&
        decide (∀ name ∈ client.importedNames, ∃ m ∈ client.models, m.label = name) &&
        decide (¬ client.Displaced .union "Foo_bar" ∧ client.Displaced .union "FooBar") &&
          files.any fun file => file.1 = .types)
    (by decide +kernel)
  simp only [Bool.and_eq_true, decide_eq_true_eq, List.any_eq_true] at seen
  obtain ⟨⟨⟨imported, closed⟩, first, second⟩, ⟨role, types⟩, listed, rfl⟩ := seen
  obtain ⟨ofModels, _, made, -, -, declared⟩ := declared_iff_not_displaced built compiled listed closed
  refine ⟨client, files, types, ofModels, built, compiled, listed, closed, made, ?_, ?_⟩
  · exact (declared "Foo_bar" (by simp [imported])).mpr first
  · exact mt (declared "FooBar" (by simp [imported])).mp (not_not_intro second)

/-- The type that a property refers to is not declared if an enum of another name has got its exported
name. -/
theorem not_declared_of_collision :
    let enum (value : String) : Value := .map [(.text "enum", .list [.text value])]
    let document : Value := .map [(.text "swagger", "2.0"), (.text "definitions", .map [
      (.text "Foo_bar", enum "a"), (.text "FooBar", enum "b"),
      (.text "Pet", .map [(.text "properties", .map [
        (.text "name", .map [(.text "$ref", "#/definitions/FooBar")])])])])]
    ∃ client files types, ofDocument document {} = .ok client ∧
      Client.files document client {} = .ok files ∧ (FileRole.types, types) ∈ files ∧
      (∀ name ∈ client.importedNames, ∃ m ∈ client.models, m.label = name) ∧
      "FooBar" ∈ client.importedNames ∧ ∀ d ∈ types.declarations, d.typeName? ≠ some "FooBar" := by
  intro enum document
  obtain ⟨client, files, built, compiled, seen⟩ := exists_files_of_any document {}
    (p := fun client files =>
      decide (∀ name ∈ client.importedNames, ∃ m ∈ client.models, m.label = name) &&
        decide ("FooBar" ∈ client.importedNames) &&
          files.any fun file => file.1 = .types ∧
            ∀ d ∈ file.2.declarations, d.typeName? ≠ some "FooBar")
    (by decide +kernel)
  simp only [Bool.and_eq_true, decide_eq_true_eq, List.any_eq_true] at seen
  obtain ⟨⟨closed, imported⟩, ⟨role, types⟩, listed, rfl, undeclared⟩ := seen
  exact ⟨client, files, types, built, compiled, listed, closed, imported, undeclared⟩

end Client

end TypedClient
