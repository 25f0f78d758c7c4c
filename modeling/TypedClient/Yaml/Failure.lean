import TypedClient.Error

/-! Why a YAML text denotes no value. -/

namespace TypedClient.Yaml

/-- Why a text denotes no value. -/
inductive Failure
  | malformed (level : YamlLevel)
  /-- The text has the form of a value, but there is no such value. -/
  | impossible (fault : Fault)
  deriving DecidableEq, Repr

/-- A mistake at a level. -/
def mistake {α : Type} (level : YamlLevel) : Except Failure α :=
  .error (.malformed level)

/-- The absence of a value that has the right form. -/
def impossible {α : Type} (fault : Fault) : Except Failure α :=
  .error (.impossible fault)

end TypedClient.Yaml
