import TypedClient.Value.Equality

/-! TypeScript as a tree: type expressions, value expressions and declarations. -/

namespace TypedClient

/-- A member of an object type, over the type expressions in use. -/
structure Member (τ : Type) where
  /-- A text for all but a property whose key is none. -/
  name : Value
  type : τ
  isRequired : Bool := true
  isReadOnly : Bool := false
  comment : List String := []
  deriving Repr

/-- A type expression. -/
inductive TypeExpr
  | reference (name : String) (args : List TypeExpr)
  | array (element : TypeExpr)
  | union (types : List TypeExpr)
  | intersection (types : List TypeExpr)
  | literal (value : Value)
  | indexed (object : TypeExpr) (index : Value)
  | object (members : List (Member TypeExpr))
  | raw (text : String)
  /-- A thing of the named kind, which is no type expression. -/
  | foreign (kind : String)
  deriving Repr

instance : Inhabited TypeExpr := ⟨.raw ""⟩

/-- A value expression. -/
inductive Expression
  | identifier (name : String)
  | literal (value : Value)
  | object (entries : List (String × Expression))
  /-- A thing of the named kind, which is no expression. -/
  | foreign (kind : String)
  deriving Repr

instance : Inhabited Expression := ⟨.object []⟩

/-- The value that a parameter takes if none is passed. -/
inductive Initializer
  | value (v : Value)
  | expression (e : Expression)
  deriving Repr

/-- A parameter of a method or constructor. -/
structure FunctionParameter where
  name : Value
  type : Option TypeExpr := none
  isRequired : Bool := true
  default : Option Initializer := none
  accessLevel : String := ""
  isReadOnly : Bool := false
  deriving Repr

/-- A statement that returns the result of a call. -/
structure ReturnCall where
  callee : String
  args : List Expression
  deriving Repr

/-- A method of a class. -/
structure Method where
  name : String
  parameters : List FunctionParameter
  returnType : TypeExpr
  statements : List ReturnCall
  comment : List String := []
  isStatic : Bool := false
  accessLevel : String := "public"
  deriving Repr

/-- A decorator before a class. -/
structure Decorator where
  name : String
  args : List Expression := []
  deriving Repr

/-- A member of an enum, or of the object that stands for one. -/
structure EnumMember where
  key : Value
  value : Value
  comment : List String := []
  deriving Repr

/-- A name that is imported or exported, possibly under another name or as a type only. -/
structure ImportName where
  name : String
  localName : Option String := none
  isTypeOnly : Bool := false
  deriving DecidableEq, Repr

/-- The names imported from one module. -/
structure Import where
  source : String
  names : List ImportName
  deriving DecidableEq, Repr

/-- A class; its constructor takes the given parameters, if it has one. -/
structure ClassDeclaration where
  name : String
  methods : List Method
  constructor : Option (List FunctionParameter) := none
  decorator : Option Decorator := none
  comment : List String := []
  deriving Repr

/-- A top-level declaration. -/
inductive Declaration
  | typeAlias (name : String) (type : TypeExpr) (comment : List String)
  | interface (name : String) (members : List (Member TypeExpr)) (comment : List String)
  | enum (name : String) (members : List EnumMember) (comment : List String)
  | constObject (name : String) (members : List EnumMember) (comment : List String)
  | const (name : String) (value : Value)
  | ofClass (declaration : ClassDeclaration)
  | exportAll (source : String)
  | exportNamed (source : String) (names : List ImportName)
  deriving Repr

/-- Whether a declaration passes on what another module exports. -/
def Declaration.isExport : Declaration → Bool
  | exportAll _ | exportNamed _ _ => true
  | _ => false

end TypedClient
