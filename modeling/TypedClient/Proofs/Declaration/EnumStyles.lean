import TypedClient.Proofs.Client.Models
import TypedClient.Proofs.Declaration.TypeNames

/-! The enum styles: they declare one model differently only where it is an enum or has some inside. -/

namespace TypedClient

/-- The name of the object that a declaration holds the values of an enum in, if it is such a one. -/
def Declaration.objectName? : Declaration → Option String
  | .constObject name _ _ => some name
  | _ => none

/-- What has the name of a type is no object. -/
theorem Declaration.objectName_of_typeName {d : Declaration} {name : String}
    (named : d.typeName? = some name) : d.objectName? = none := by
  cases d <;> simp_all [typeName?, objectName?]

namespace Model

variable {m : Model} {style : EnumStyle} {ds : List Declaration}

/-- The union of the values of an enum, with null if it is allowed. -/
def literals (m : Model) : TypeExpr :=
  (TypeExpr.unionOf (m.enum.map fun e => .literal e.value)).nullable m.isNullable

/-- The type of an enum is the union of its values. -/
theorem typeExpr_of_isEnum (isEnum : m.isEnum = true) : m.typeExpr = .ok m.literals := by
  obtain ⟨variant⟩ := m
  cases variant <;> simp [Model.isEnum] at isEnum
  simp only [typeExpr]
  rfl

/-- What an enum is declared as under an exported name, with its members and its comment written. -/
def exportedAs (style : EnumStyle) (m : Model) (name : String) (members : List EnumMember)
    (comment : List String) : List Declaration :=
  match style with
  | .typescript =>
    .enum name members comment ::
      if m.label = name then [] else [.typeAlias m.label (.reference name []) []]
  | .union => [.typeAlias m.label m.literals comment]
  | .javascript => [.typeAlias m.label m.literals comment, .constObject name members comment]

/-- An enum is declared in each style if its members and its comment can be written. -/
theorem enumDeclarations_eq (isEnum : m.isEnum = true) (style : EnumStyle) :
    m.enumDeclarations style =
      match m.enumName with
      | none => .ok []
      | some name => do
        let members ← m.enum.mapM EnumValue.member
        let comment ← m.comment
        return m.exportedAs style name members comment := by
  rw [enumDeclarations]
  cases m.enumName with
  | none => rfl
  | some name =>
    -- The styles differ in what they do with the members and the comment only.
    cases style with
    | typescript => simp [exportedAs]
    | union =>
      rw [typeExpr_of_isEnum isEnum]
      rfl
    | javascript =>
      rw [typeExpr_of_isEnum isEnum]
      rfl

/-- The declaration of a model that is no enum: an interface, or an alias of its type. -/
def ownDeclaration (m : Model) : Outcome Declaration :=
  match m.variant with
  | .interface =>
    if m.properties.isEmpty || m.isNullable then m.aliasDeclaration
    else do
      let members ← members m.properties
      return .interface m.label members (← m.comment)
  | _ => m.aliasDeclaration

/-- The declarations of a model apart from those of enums, which are the same in each style. -/
def ownDeclarations (m : Model) : Outcome (List Declaration) :=
  if m.isEnum then return [] else return [← m.ownDeclaration]

/-- A model is declared itself unless it is an enum, and then its enums are, be it one of them or not. -/
theorem IsDeclarable.declarations_eq (declarable : m.IsDeclarable) (style : EnumStyle) :
    m.declarations style = do
      let own ← m.ownDeclarations
      let each ← m.namedEnums.mapM (enumDeclarations style)
      return own ++ each.flatten := by
  have within := declarable.within
  cases kind : m.variant with
  | interface =>
    -- An object without properties, or with null beside it, is an alias like all others.
    cases bare : m.properties.isEmpty || m.isNullable <;>
      simp [declarations, ownDeclarations, ownDeclaration, nestedDeclarations, namedEnums, isEnum, kind,
        bare]
  | composition kind =>
    simp [declarations, ownDeclarations, ownDeclaration, nestedDeclarations, namedEnums, isEnum, kind]
  | _ =>
    -- No other model has enums inside it.
    have none : m.enums = [] := by
      by_contra nested
      simpa [kind] using within nested
    simp [declarations, ownDeclarations, ownDeclaration, namedEnums, isEnum, kind, none]

/-- What is declared for a model itself has the name of the model. -/
theorem typeName_of_ownDeclaration {d : Declaration} (made : m.ownDeclaration = .ok d) :
    d.typeName? = some m.label := by
  rw [ownDeclaration] at made
  split at made
  · split at made
    · exact typeName_of_aliasDeclaration made
    · simp only [Outcome.bind_eq_ok, Outcome.pure_eq_ok] at made
      obtain ⟨members, -, comment, -, rfl⟩ := made
      rfl
  · exact typeName_of_aliasDeclaration made

/-- An enum that can be declared in one style can be declared in every other. -/
theorem exists_enumDeclarations (isEnum : m.isEnum = true) (made : m.enumDeclarations style = .ok ds)
    (other : EnumStyle) : ∃ others, m.enumDeclarations other = .ok others := by
  rw [enumDeclarations_eq isEnum] at made ⊢
  cases given : m.enumName with
  | none => exact ⟨[], rfl⟩
  | some name =>
    -- What can fail is the same in both styles.
    simp only [given, Outcome.bind_eq_ok] at made
    obtain ⟨members, membersMade, comment, commentMade, -⟩ := made
    exact ⟨m.exportedAs other name members comment, by simp [membersMade, commentMade]⟩

/-- A model that can be declared in one style can be declared in every other. -/
theorem IsDeclarable.exists_declarations (declarable : m.IsDeclarable)
    (enums : ∀ e ∈ m.namedEnums, e.isEnum = true) (made : m.declarations style = .ok ds)
    (other : EnumStyle) : ∃ others, m.declarations other = .ok others := by
  simp only [declarable.declarations_eq, Outcome.bind_eq_ok] at made ⊢
  obtain ⟨own, ownMade, each, eachMade, -⟩ := made
  have every : ∀ e ∈ m.namedEnums, ∃ others, e.enumDeclarations other = .ok others := by
    intro e mem
    obtain ⟨ds, -, found⟩ := Outcome.exists_result eachMade mem
    exact exists_enumDeclarations (enums e mem) found other
  obtain ⟨others, othersMade⟩ := Outcome.exists_mapM every
  exact ⟨_, own, ownMade, others, othersMade, rfl⟩

/-- The names of the objects that hold the values of an enum: there is one in a single style only. -/
def objectNames (style : EnumStyle) (m : Model) : List String :=
  if style = .javascript then m.enumName.toList else []

/-- The declarations of an enum have its object names. -/
theorem objectNames_of_enumDeclarations (made : m.enumDeclarations style = .ok ds) :
    ds.filterMap Declaration.objectName? = m.objectNames style := by
  rw [enumDeclarations] at made
  rw [objectNames]
  cases given : m.enumName with
  | none =>
    simp only [given] at made
    cases made
    simp
  | some name =>
    simp only [given, Outcome.bind_eq_ok] at made
    obtain ⟨members, -, comment, -, made⟩ := made
    cases style with
    | typescript =>
      cases made
      -- Neither the enum nor the alias that it may have is an object.
      by_cases same : (m.label == name) = true <;> simp [same, Declaration.objectName?]
    | union =>
      obtain ⟨type, -, made⟩ := Outcome.bind_eq_ok.mp made
      cases made
      rfl
    | javascript =>
      obtain ⟨type, -, made⟩ := Outcome.bind_eq_ok.mp made
      cases made
      rfl

/-- The declarations of a model have the object names of its enums. -/
theorem IsDeclarable.objectNames_of_declarations (declarable : m.IsDeclarable)
    (made : m.declarations style = .ok ds) :
    ds.filterMap Declaration.objectName? = m.namedEnums.flatMap (objectNames style) := by
  simp only [declarable.declarations_eq, Outcome.bind_eq_ok, Outcome.pure_eq_ok] at made
  obtain ⟨own, ownMade, each, eachMade, rfl⟩ := made
  have ofEnums := names_of_mapM eachMade fun _ _ _ => objectNames_of_enumDeclarations
  -- What is declared for the model itself has the name of a type.
  have ofOwn : own.filterMap Declaration.objectName? = [] := by
    rw [ownDeclarations] at ownMade
    split at ownMade
    · cases ownMade
      rfl
    · simp only [Outcome.bind_eq_ok, Outcome.pure_eq_ok] at ownMade
      obtain ⟨d, dMade, rfl⟩ := ownMade
      have named := Declaration.objectName_of_typeName (typeName_of_ownDeclaration dMade)
      simp [named]
  rw [List.filterMap_append, ofOwn, ofEnums, List.nil_append]

end Model

namespace Client

variable {document : Value} {client : Client} {config : Config} {style : EnumStyle}

/-- What is declared for the models of a client in the three styles stands for the same models. -/
structure StylesAgree (client : Client) (ofModels : EnumStyle → List Declaration) : Prop where
  /-- A model that is no enum is declared under its name. -/
  others : ∀ style, ∀ m ∈ client.models, m.isEnum = false →
    ∃ d ∈ ofModels style, d.typeName? = some m.label
  /-- So is an enum that has an exported name, be it a model itself or found inside one. -/
  enums : ∀ style, ∀ e ∈ client.enums, e.enumName ≠ none →
    ∃ d ∈ ofModels style, d.typeName? = some e.label
  /-- As true enums, exported names are those of types too, and nothing else is. -/
  typescript : ∀ name, name ∈ (ofModels .typescript).filterMap Declaration.typeName? ↔
    name ∈ (ofModels .union).filterMap Declaration.typeName? ∨
      name ∈ client.enums.filterMap Model.enumName
  /-- With objects beside the unions, the types are those of the unions alone. -/
  javascript : (ofModels .javascript).filterMap Declaration.typeName?
    = (ofModels .union).filterMap Declaration.typeName?
  /-- The objects have just the exported names, each one once, and only one style has objects. -/
  objects : ∀ style, (ofModels style).filterMap Declaration.objectName?
    = if style = .javascript then client.enums.filterMap Model.enumName else []

/-- Models that can be declared in one style can be declared in every other. -/
theorem exists_modelDeclarations (built : ofDocument document config = .ok client)
    {ds : List Declaration} (made : client.modelDeclarations config = .ok ds) (style : EnumStyle) :
    ∃ others, client.modelDeclarations { config with enums := style } = .ok others := by
  simp only [modelDeclarations, Outcome.bind_eq_ok] at made ⊢
  obtain ⟨each, eachMade, -⟩ := made
  have every : ∀ m ∈ client.models, ∃ others, m.declarations style = .ok others := by
    intro m mem
    obtain ⟨own, -, ownMade⟩ := Outcome.exists_result eachMade mem
    have enums : ∀ e ∈ m.namedEnums, e.isEnum = true := fun e inside =>
      isEnum_of_mem_enums built (List.mem_flatMap.mpr ⟨m, mem, inside⟩)
    exact (isDeclarable_of_ofDocument built m mem).exists_declarations enums ownMade style
  obtain ⟨others, othersMade⟩ := Outcome.exists_mapM every
  exact ⟨_, others, othersMade, rfl⟩

/-- The declarations of all models have the object names of all enums. -/
theorem objectNames_of_modelDeclarations (built : ofDocument document config = .ok client)
    {emit : Config} {ds : List Declaration} (made : client.modelDeclarations emit = .ok ds) :
    ds.filterMap Declaration.objectName? = client.enums.flatMap (Model.objectNames emit.enums) := by
  simp only [modelDeclarations, Outcome.bind_eq_ok, Outcome.pure_eq_ok] at made
  obtain ⟨each, eachMade, rfl⟩ := made
  rw [enums, List.flatMap_assoc]
  exact Model.names_of_mapM eachMade fun m mem ds own =>
    (isDeclarable_of_ofDocument built m mem).objectNames_of_declarations own

/-- Declarations that are made of the models of a client in each style stand for the same models. -/
theorem stylesAgree_of_modelDeclarations (built : ofDocument document config = .ok client)
    {ofModels : EnumStyle → List Declaration}
    (made : ∀ style, client.modelDeclarations { config with enums := style } = .ok (ofModels style)) :
    client.StylesAgree ofModels := by
  have names (style : EnumStyle) :
      (ofModels style).filterMap Declaration.typeName? = client.typeNames style :=
    typeNames_of_modelDeclarations (made style)
  have registered : client.enumNames = client.enums.filterMap Model.enumName :=
    (named_enums built).result_eq
  -- A name that is one of a type of the client is that of a declaration.
  have declared {style : EnumStyle} {name : String} (known : name ∈ client.typeNames style) :
      ∃ d ∈ ofModels style, d.typeName? = some name := by
    rwa [← List.mem_filterMap, names]
  refine ⟨?_, ?_, ?_, ?_, ?_⟩
  · intro style m mem other
    exact declared ((mem_typeNames_iff built).mpr (.inl ⟨m, mem, other, rfl⟩))
  · intro style e mem exported
    exact declared ((mem_typeNames_iff built).mpr (.inr (.inl ⟨e, mem, rfl, exported⟩)))
  · intro name
    rw [names, names, mem_typeNames_iff built, mem_typeNames_iff built, registered]
    simp [or_assoc]
  · rw [names, names]
    rfl
  · intro style
    rw [objectNames_of_modelDeclarations built (made style), List.filterMap_eq_flatMap_toList]
    cases style with
    | javascript => rfl
    | _ => simp [Model.objectNames]

/-- A types file that can be written in one style can be written in every other, with the same types of
the operations. -/
theorem exists_typesFiles (built : ofDocument document config = .ok client) {types : OutputFile}
    (made : client.typesFile config = .ok types) :
    ∃ (ofModels : EnumStyle → List Declaration) (ofOperations : List Declaration), ∀ style,
      client.modelDeclarations { config with enums := style } = .ok (ofModels style) ∧
      ∃ types, client.typesFile { config with enums := style } = .ok types ∧
        types.declarations = ofModels style ++ ofOperations := by
  obtain ⟨-, ds, ofOperations, dsMade, operationsMade, -⟩ := typesFile_eq_ok made
  choose ofModels each using exists_modelDeclarations built dsMade
  refine ⟨ofModels, ofOperations, fun style => ⟨each style, ?_⟩⟩
  -- The types of the operations do not depend on how enums are declared.
  have ofStyle : client.operationDeclarations { config with enums := style } = .ok ofOperations :=
    operationsMade
  obtain ⟨types, typesMade⟩ : ∃ types, client.typesFile { config with enums := style } = .ok types := by
    rw [typesFile, each, ofStyle]
    exact ⟨_, rfl⟩
  obtain ⟨-, _, _, same, sameOperations, held⟩ := typesFile_eq_ok typesMade
  cases same.symm.trans (each style)
  cases sameOperations.symm.trans ofStyle
  exact ⟨types, typesMade, held⟩

/--
Every style declares every model under its name, and the styles differ in the exported names only.

The client is the same in each style, and so is what the types file holds for the operations.
-/
theorem stylesAgree_of_typesFile (built : ofDocument document config = .ok client)
    {types : OutputFile} (made : client.typesFile config = .ok types) :
    ∃ (ofModels : EnumStyle → List Declaration) (ofOperations : List Declaration),
      (∀ style, ofDocument document { config with enums := style } = .ok client ∧
        client.modelDeclarations { config with enums := style } = .ok (ofModels style) ∧
        ∃ types, client.typesFile { config with enums := style } = .ok types ∧
          types.declarations = ofModels style ++ ofOperations) ∧
      client.StylesAgree ofModels := by
  obtain ⟨ofModels, ofOperations, each⟩ := exists_typesFiles built made
  -- Building a client does not ask for the style either.
  refine ⟨ofModels, ofOperations, fun style => ⟨built, each style⟩, ?_⟩
  exact stylesAgree_of_modelDeclarations built fun style => (each style).1

/-- An enum of its own, one inside an object that goes without an exported name, and one inside a
composition. -/
theorem stylesAgree_of_typesFile_nested :
    let enum (value : String) : Value := .map [(.text "enum", .list [.text value])]
    let document : Value := .map [(.text "swagger", "2.0"), (.text "definitions", .map [
      (.text "pet_status", enum "a"),
      (.text "Pet", .map [(.text "properties", .map [(.text "status", enum "b")])]),
      (.text "Order", .map [(.text "oneOf", .list [enum "c", .map [(.text "type", "number")]])])])]
    ∃ client types ofModels, ofDocument document {} = .ok client ∧ client.typesFile {} = .ok types ∧
      client.enums.map Model.enumName = [some "PetStatus", none, some "OrderEnum"] ∧
      (∀ style, client.modelDeclarations { enums := style } = .ok (ofModels style)) ∧
      client.StylesAgree ofModels := by
  intro enum document
  obtain ⟨client, built, seen⟩ := Outcome.exists_of_any (x := ofDocument document {})
    (p := fun client =>
      client.enums.map Model.enumName == [some "PetStatus", none, some "OrderEnum"] &&
        (client.typesFile {}).toOption.any fun _ => true)
    (by decide +kernel)
  obtain ⟨named, written⟩ := Bool.and_eq_true_iff.mp seen
  obtain ⟨types, made, -⟩ := Outcome.exists_of_any written
  obtain ⟨ofModels, _, each, agree⟩ := stylesAgree_of_typesFile built made
  exact ⟨client, types, ofModels, built, made, by simpa using named, fun style => (each style).2.1, agree⟩

end Client

end TypedClient
