import TypedClient.TypeScript.Syntax

/-! Equality of type expressions, whose literals compare as document values do. -/

namespace TypedClient.TypeExpr

mutual

/-- Equality of type expressions. -/
def same : TypeExpr → TypeExpr → Bool
  | reference a xs, reference b ys => a == b && sameAll xs ys
  | array x, array y => x.same y
  | union xs, union ys => sameAll xs ys
  | intersection xs, intersection ys => sameAll xs ys
  | literal v, literal w => v == w
  | indexed x i, indexed y j => x.same y && i == j
  | object ms, object ns => sameMembers ms ns
  | raw s, raw t => s == t
  | foreign k, foreign l => k == l
  | _, _ => false

/-- Equality of lists of type expressions. -/
def sameAll : List TypeExpr → List TypeExpr → Bool
  | [], [] => true
  | x :: xs, y :: ys => x.same y && sameAll xs ys
  | _, _ => false

/-- Equality of members of object types, comments included. -/
def sameMembers : List (Member TypeExpr) → List (Member TypeExpr) → Bool
  | [], [] => true
  | ⟨name, type, isRequired, isReadOnly, comment⟩ :: ms, n :: ns =>
    name == n.name && type.same n.type && isRequired == n.isRequired
      && isReadOnly == n.isReadOnly && comment == n.comment && sameMembers ms ns
  | _, _ => false

end

instance : BEq TypeExpr := ⟨same⟩

/-- The type that has no value but null. -/
def null : TypeExpr :=
  reference "null" []

/-- The type of all values. -/
def unknown : TypeExpr :=
  reference "unknown" []

/-- The type expressions of a list, each once, at its first place. -/
def distinct (types : List TypeExpr) : List TypeExpr :=
  types.foldl (fun kept t => if kept.any fun k => k.same t then kept else kept ++ [t]) []

/-- The type with null allowed beside it, once. -/
def orNull : TypeExpr → TypeExpr
  | union types => if types.any fun t => t.same null then union types else union (types ++ [null])
  | type => if type.same null then type else union [type, null]

/-- The type with null allowed beside it if the flag says so. -/
def nullable (type : TypeExpr) (isNullable : Bool) : TypeExpr :=
  if isNullable then type.orNull else type

/-- The union of the different types of a list; one type stands for itself and none is unknown. -/
def unionOf (types : List TypeExpr) : TypeExpr :=
  match distinct types with
  | [] => unknown
  | [type] => type
  | several => union several

end TypedClient.TypeExpr
