import TypedClient.Config
import TypedClient.Declaration.TypeExpr

/-! The declarations that stand for models. -/

namespace TypedClient

/-- The member of an enum that stands for one of its values. -/
def EnumValue.member (e : EnumValue) : Outcome EnumMember :=
  return {
    key := enumKey e.value e.customName
    value := e.value
    comment := [← commentText (e.customDescription.orElse e.description)] }

namespace Model

/-- The declaration of a model as an alias of its type. -/
def aliasDeclaration (m : Model) : Outcome Declaration := do
  let type ← m.typeExpr
  return .typeAlias m.label type (← m.comment)

/-- The declarations of an enum; one that is not exported on its own has none. -/
def enumDeclarations (style : EnumStyle) (m : Model) : Outcome (List Declaration) :=
  match m.enumName with
  | none => return []
  | some name => do
    let members ← m.enum.mapM EnumValue.member
    let comment ← m.comment
    match style with
    | .typescript =>
      -- References use the name of the model, so it has to be declared too.
      let shared := if m.label == name then [] else [.typeAlias m.label (.reference name []) []]
      return .enum name members comment :: shared
    | .union => return [.typeAlias m.label (← m.typeExpr) comment]
    | .javascript =>
      return [.typeAlias m.label (← m.typeExpr) comment, .constObject name members comment]

/-- The declarations of the enums found inside a model. -/
def nestedDeclarations (style : EnumStyle) (m : Model) : Outcome (List Declaration) :=
  return (← m.enums.mapM (enumDeclarations style)).flatten

/-- The declarations of a model and of the enums inside it. -/
def declarations (style : EnumStyle) (m : Model) : Outcome (List Declaration) :=
  match m.variant with
  | .enumeration => m.enumDeclarations style
  | .interface => do
    let own ←
      if m.properties.isEmpty || m.isNullable then m.aliasDeclaration
      else
        let members ← members m.properties
        pure (.interface m.label members (← m.comment))
    return own :: (← m.nestedDeclarations style)
  | .composition _ => return (← m.aliasDeclaration) :: (← m.nestedDeclarations style)
  | _ => return [← m.aliasDeclaration]

end Model

end TypedClient
