import TypedClient.TypeScript.File
import TypedClient.TypeScript.Print

/-! The text of declarations and of whole files. -/

namespace TypedClient

/-- The lines, each with a line feed after it. -/
def endedLines (lines : List String) : String :=
  String.join (lines.map (· ++ "\n"))

/-- The line of a member of an enum, its doc comment above it; a mark stands before the value. -/
def EnumMember.line (mark : String) (level : Nat) (member : EnumMember) : Outcome String := do
  let value ← printValue member.value level
  return printComment member.comment 1 ++ indent 1 ++ member.key.display ++ mark ++ value ++ ","

/-- A statement that returns the result of a call. -/
def ReturnCall.line (statement : ReturnCall) : Outcome String := do
  let args ← statement.args.mapM fun arg => printExpression arg 2
  return indent 2 ++ "return " ++ statement.callee ++ "(" ++ ", ".intercalate args ++ ");"

/-- The parameters of a method or constructor. -/
def printParameters (parameters : List FunctionParameter) : Outcome String :=
  return ", ".intercalate (← parameters.mapM printParameter)

/-- The text of a method. -/
def Method.render (method : Method) : Outcome String := do
  let parameters ← printParameters method.parameters
  let returnType ← printType method.returnType 1
  let statements ← method.statements.mapM ReturnCall.line
  return printComment method.comment 1 ++ indent 1 ++ method.accessLevel
    ++ (if method.isStatic then " static " else " ") ++ method.name ++ "(" ++ parameters ++ "): "
    ++ returnType ++ " "
    ++ braced ("\n" ++ endedLines statements ++ indent 1) ++ "\n"

/-- The line of a decorator. -/
def Decorator.line (decorator : Decorator) : Outcome String := do
  let args ← decorator.args.mapM fun arg => printExpression arg 0
  return "@" ++ decorator.name ++ "(" ++ ", ".intercalate args ++ ")"

/-- The line of a constructor that only takes its parameters. -/
def constructorLine (parameters : List FunctionParameter) : Outcome String :=
  return indent 1 ++ "constructor(" ++ (← printParameters parameters) ++ ") " ++ braced ""

/-- The text of a class; an empty line stands between its constructor and its methods. -/
def ClassDeclaration.render (declaration : ClassDeclaration) : Outcome String := do
  let decorator ← declaration.decorator.toList.mapM Decorator.line
  let constructor ← declaration.constructor.toList.mapM constructorLine
  let methods ← declaration.methods.mapM Method.render
  let parts := constructor.map (· ++ "\n") ++ methods
  return printComment declaration.comment 0 ++ endedLines decorator ++ "export class "
    ++ declaration.name ++ " " ++ braced ("\n" ++ "\n".intercalate parts) ++ "\n"

/-- The text of a declaration. -/
def Declaration.render : Declaration → Outcome String
  | typeAlias name type comment => do
    let text ← printType type 0
    return printComment comment 0 ++ "export type " ++ name ++ " = " ++ text ++ ";\n"
  | interface name members comment => do
    let lines ← members.mapM fun member => printMember member 1
    return printComment comment 0 ++ "export interface " ++ name ++ " "
      ++ braced ("\n" ++ endedLines lines) ++ "\n"
  | enum name members comment => do
    let lines ← members.mapM (EnumMember.line " = " 0)
    return printComment comment 0 ++ "export enum " ++ name ++ " "
      ++ braced ("\n" ++ endedLines lines) ++ "\n"
  | constObject name members comment => do
    let lines ← members.mapM (EnumMember.line ": " 1)
    return printComment comment 0 ++ "export const " ++ name ++ " = "
      ++ braced ("\n" ++ endedLines lines) ++ " as const;\n"
  | const name value => do
    let text ← printValue value 0
    return "export const " ++ name ++ " = " ++ text ++ " as const;\n"
  | ofClass declaration => declaration.render
  | exportAll source => return "export * from '" ++ source ++ "';\n"
  | exportNamed source names =>
    return "export " ++ printImportNames names ++ " from '" ++ source ++ "';\n"

/-- The first line of every generated file. -/
def fileNotice : String :=
  "// This file is auto-generated by openapi-ts-codegen"

/-- The text of a declaration with an empty line before it, which exports do without. -/
def Declaration.renderApart (declaration : Declaration) : Outcome String :=
  return (if declaration.isExport then "" else "\n") ++ (← declaration.render)

/-- The text of a file: a notice, the imports and the declarations. -/
def OutputFile.render (file : OutputFile) : Outcome String := do
  let declarations ←
    match file.declarations with
    | [] => pure []
    | first :: rest => do
      let head ← first.render
      pure (("\n" ++ head) :: (← rest.mapM Declaration.renderApart))
  return endedLines (fileNotice :: file.imports.map printImport) ++ String.join declarations

end TypedClient
