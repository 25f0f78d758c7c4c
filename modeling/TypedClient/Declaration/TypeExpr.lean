import TypedClient.Name.Property
import TypedClient.Schema.Resolve
import TypedClient.TypeScript.Equality

/-! The type expression that a model stands for. -/

namespace TypedClient

/-- The type expression of a type given as text; binary data is what a browser holds it in. -/
def TypeUse.typeExpr (type : TypeUse) : TypeExpr :=
  if type.base == "binary" then .union [.reference "Blob" [], .reference "File" []]
  else
    match type.template with
    | some template =>
      -- An empty argument is none.
      if template == "" then .reference type.text []
      else .reference type.base [.reference template []]
    | none => .reference type.text []

/-- The alternatives of a composition, each once, combined as its kind says. -/
def Composition.combine (kind : Composition) (types : List TypeExpr) : TypeExpr :=
  -- Models with different names can still have the same type, so it is types that are compared.
  match TypeExpr.distinct types with
  | [] => .unknown
  | [type] => type
  | several => if kind = .allOf then .intersection several else .union several

/-- The text for a value inside a comment, empty if there is none. -/
def commentText (description : Value) : Outcome String :=
  if description.truthy then escapeCommentValue description else .ok ""

namespace Model

/-- The name of a model as a text. -/
def label (m : Model) : String :=
  m.name.display

/-- The comment of a model: its description, and whether it is deprecated. -/
def comment (m : Model) : Outcome (List String) :=
  return [← commentText m.description, if m.deprecated then "@deprecated" else ""]

/-- The member that stands for a property of the given type. -/
def member (property : Model) (type : TypeExpr) : Outcome (Member TypeExpr) := do
  if property.name == .text Schema.indexSignature then
    -- Any key may be missing, which an index signature says by its type.
    return { name := property.name, type := .union [type, .reference "undefined" []] }
  else
    return {
      name := property.name
      type
      isRequired := property.isRequired
      isReadOnly := property.isReadOnly
      comment := ← property.comment }

mutual

/-- The type expression that a model stands for. -/
def typeExpr : Model → Outcome TypeExpr
  | { variant, type, isNullable, properties, enum, link, .. } => do
    let expr ← match variant with
      | .interface =>
        if properties.isEmpty then pure TypeExpr.unknown
        else pure (TypeExpr.object (← members properties))
      | .enumeration => pure (TypeExpr.unionOf (enum.map fun e => .literal e.value))
      | .composition kind => pure (kind.combine (← typeExprs properties))
      | .array => pure (TypeExpr.array (← linkExpr type link))
      | .dictionary =>
        pure (TypeExpr.reference "Record" [.reference "string" [], ← linkExpr type link])
      | .reference | .generic => pure type.typeExpr
      | .constant value => pure (TypeExpr.literal value)
      | .untyped kind => .error (.noTypeForVariant kind)
    return expr.nullable isNullable

/-- The type expressions of models. -/
def typeExprs : List Model → Outcome (List TypeExpr)
  | [] => .ok []
  | m :: rest => do
    let type ← m.typeExpr
    return type :: (← typeExprs rest)

/-- The members that stand for properties. -/
def members : List Model → Outcome (List (Member TypeExpr))
  | [] => .ok []
  | property :: rest => do
    let member ← property.member (← property.typeExpr)
    return member :: (← members rest)

/-- The type expression of the model linked to, or of the type as text if there is none. -/
def linkExpr (type : TypeUse) : Option Model → Outcome TypeExpr
  | some link => link.typeExpr
  | none => .ok type.typeExpr

end

end Model

end TypedClient
