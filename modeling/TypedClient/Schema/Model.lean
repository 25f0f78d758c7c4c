import TypedClient.Schema.TypeUse

/-! Resolved schemas: one tree of models, each with the kind of type that it stands for. -/

namespace TypedClient

/-- How the alternatives of a composed schema are combined. -/
inductive Composition
  | allOf
  | anyOf
  | oneOf
  /-- Any other way; its alternatives are read as those of a union. -/
  | other (name : String)
  deriving DecidableEq, Repr

/-- The name of a way to combine alternatives. -/
def Composition.name : Composition → String
  | allOf => "all-of"
  | anyOf => "any-of"
  | oneOf => "one-of"
  | other name => name

/-- The way to combine alternatives that has the name. -/
def Composition.ofName (name : String) : Composition :=
  if name == "all-of" then allOf
  else if name == "any-of" then anyOf
  else if name == "one-of" then oneOf
  else other name

/-- The kind of type that a model stands for. -/
inductive Variant
  | interface
  | enumeration
  | composition (kind : Composition)
  | reference
  | array
  | dictionary
  | generic
  | constant (value : Value)
  /-- A thing of the named kind, which stands for no type. -/
  | untyped (kind : String)
  deriving Repr

/-- One value of an enum with what the document says about it. -/
structure EnumValue where
  value : Value
  customName : Value := .null
  description : Value := .null
  customDescription : Value := .null
  deriving Repr, Inhabited

/-- A resolved schema. -/
structure Model where
  variant : Variant
  /-- A text for all but a property whose key is none. -/
  name : Value := .text ""
  type : TypeUse := {}
  isDefinition : Bool := false
  isRequired : Bool := false
  isReadOnly : Bool := false
  isNullable : Bool := false
  description : Value := .null
  deprecated : Bool := false
  default : Value := .null
  format : Value := .null
  /-- The members of an interface, or the alternatives of a composition. -/
  properties : List Model := []
  enum : List EnumValue := []
  /-- Enums found inside the schema that are to be declared beside it. -/
  enums : List Model := []
  /-- The type of the items of an array or of the values of a dictionary. -/
  link : Option Model := none
  /-- The name under which the enum is exported on its own, if it is. -/
  enumName : Option String := none
  deriving Repr

namespace Model

instance : Inhabited Model := ⟨{ variant := .generic }⟩

/-- A model about which nothing is known. -/
def unknown : Model :=
  { variant := .generic }

/-- Whether the model is an enum. -/
def isEnum (m : Model) : Bool :=
  m.variant matches .enumeration

/-- An enum without values, which is a text type. -/
def emptyEnum : Model :=
  { variant := .enumeration, type := .plain "string" }

/-- The names that the type of the model imports. -/
def imports (m : Model) : List String :=
  m.type.imports

/-- The references that the type of the model goes back to. -/
def refs (m : Model) : List String :=
  m.type.refs

/-- The model with further names to import and references. -/
def importing (m : Model) (imports refs : List String) : Model :=
  { m with type := { m.type with imports := m.type.imports ++ imports, refs := m.type.refs ++ refs } }

end Model

mutual

/-- A copy in which every model is a new one; the values of the document are held in common. -/
def Model.copy : Model → Model
  | model@{ properties, enums, link, .. } =>
    { model with
      properties := Model.copies properties
      enums := Model.copies enums
      link := Model.copyLink link }

/-- A copy of each model. -/
def Model.copies : List Model → List Model
  | [] => []
  | model :: rest => model.copy :: Model.copies rest

/-- A copy of the model that a model links to. -/
def Model.copyLink : Option Model → Option Model
  | none => none
  | some model => some model.copy

end

mutual

/-- Where models are values, a copy is what it is a copy of. -/
@[simp] theorem Model.copy_eq : (model : Model) → model.copy = model
  | { properties, enums, link, .. } => by
    rw [Model.copy, Model.copies_eq properties, Model.copies_eq enums, Model.copyLink_eq link]

/-- The copies of models are the models. -/
@[simp] theorem Model.copies_eq : (models : List Model) → Model.copies models = models
  | [] => rfl
  | model :: rest => by rw [Model.copies, model.copy_eq, Model.copies_eq rest]

/-- The copy of a link is the link. -/
@[simp] theorem Model.copyLink_eq : (link : Option Model) → Model.copyLink link = link
  | none => rfl
  | some model => by rw [Model.copyLink, model.copy_eq]

end

end TypedClient
