import TypedClient.Declaration.Services
import TypedClient.Proofs.Operation.Places
import TypedClient.Proofs.Outcome

/-! What a method reads, and the type literal that is declared for its parameters. -/

namespace TypedClient

namespace Expression

mutual

/-- The identifiers that an expression mentions, in their order. -/
def identifiers : Expression → List String
  | .identifier name => [name]
  | .object entries => identifiersIn entries
  | .literal _ | .foreign _ => []

/-- The identifiers that the entries of an object literal mention. -/
def identifiersIn : List (String × Expression) → List String
  | [] => []
  | (_, value) :: rest => value.identifiers ++ identifiersIn rest

end

/-- The entries of an object literal are read one after the other. -/
theorem identifiersIn_eq_flatMap (entries : List (String × Expression)) :
    identifiersIn entries = entries.flatMap fun entry => entry.2.identifiers := by
  -- The entries are gone through for the sake of the recursion, which is one of two that call each other.
  induction entries with
  | nil => rfl
  | cons entry rest ih => rw [List.flatMap_cons, ← ih]; rfl

/-- An object literal mentions what its entries mention. -/
@[simp] theorem identifiers_object (entries : List (String × Expression)) :
    (object entries).identifiers = entries.flatMap fun entry => entry.2.identifiers :=
  identifiersIn_eq_flatMap entries

/-- A literal mentions nothing. -/
@[simp] theorem identifiers_literal (value : Value) : (literal value).identifiers = [] := rfl

end Expression

/-- The object literals that a method passes on. -/
def Method.objectArguments (method : Method) : List Expression :=
  -- All else that is passed on is a name of the runtime or of the class.
  (method.statements.flatMap (·.args)).filter (· matches .object _)

/-- What stands before the name of a parameter where a method reads it. -/
def Parameter.owner (config : Config) : String :=
  if config.usesOptions then "data." else ""

/-- A method reads its parameters as the members of the type literal that is declared for them. -/
structure Method.Fits (config : Config) (method : Method) (members : List (Member TypeExpr)) :
    Prop where
  /-- One object describes the request, and all that it mentions are members. -/
  request : ∃ options, method.objectArguments = [options] ∧ ∀ name ∈ options.identifiers,
    ∃ member ∈ members, name = Parameter.owner config ++ member.name.display
  /-- Every type that is looked up by a name is that of a member. -/
  indices : ∀ parameter ∈ method.parameters, ∀ object index,
    parameter.type = some (.indexed object index) → ∃ member ∈ members, member.name = index
  /-- The object for all parameters may be left out if all of them may. -/
  default : config.usesOptions = true → members ≠ [] → ∃ parameter,
    method.parameters = [parameter] ∧ parameter.name = .text "data" ∧
      (parameter.default = some (.expression (.object []))
        ↔ ∀ member ∈ members, member.isRequired = false)

/-- The declarations hold the type literal for the parameters of an operation, if it has any. -/
def Operation.DeclaresData (operation : Operation) (declarations : List Declaration)
    (members : List (Member TypeExpr)) : Prop :=
  let literal := Declaration.typeAlias operation.dataTypeName (.object members) []
  -- Without parameters there is nothing to declare, and no member that a method could read.
  if operation.parameters = [] then operation.dataDeclaration = .ok [] ∧ members = []
  else operation.dataDeclaration = .ok [literal] ∧ literal ∈ declarations

namespace Parameter

/-- A method reads a parameter under its name. -/
@[simp] theorem identifiers_source (parameter : Parameter) (config : Config) :
    (parameter.source config).identifiers = [owner config ++ parameter.name.display] := rfl

/-- A parameter and its member have the same name and may be left out alike. -/
theorem member_eq_ok {parameter : Parameter} {member : Member TypeExpr}
    (made : parameter.member = .ok member) :
    member.name = parameter.name ∧ member.isRequired = parameter.isRequired := by
  -- The type and the comment of a member are computed, but its name and flags are carried over.
  simp only [Parameter.member, Outcome.bind_eq_ok, Outcome.pure_eq_ok] at made
  obtain ⟨type, -, comment, -, rfl⟩ := made
  exact ⟨rfl, rfl⟩

end Parameter

namespace Operation

variable {operation : Operation} {config : Config}

/-- Putting the parameters in order neither adds nor drops one. -/
theorem mem_parameters {parameter : Parameter} : parameter ∈ operation.parameters ↔
    parameter ∈ operation.declared ∨ operation.requestBody = some parameter := by
  rw [operation.stablyOrdered_parameters.perm.mem_iff, List.mem_append, Option.mem_toList]

/-- The body is a parameter of the operation. -/
theorem mem_parameters_of_body {parameter : Parameter} (isBody : operation.body = some parameter) :
    parameter ∈ operation.parameters := by
  -- The body is the one of the request, or else the last of those that are declared.
  simp only [body_eq, Option.or_eq_some_iff] at isBody
  rcases isBody with request | ⟨-, last⟩
  · exact mem_parameters.mpr (.inr request)
  · exact mem_parameters.mpr (.inl (List.mem_of_mem_filter (List.mem_of_getLast? last)))

/-- The parameters of a location are parameters of the operation. -/
theorem mem_parameters_of_located {parameter : Parameter} {location : Location}
    (mem : parameter ∈ operation.located location) : parameter ∈ operation.parameters := by
  by_cases isBody : location = .body
  · subst isBody
    exact mem_parameters_of_body (Option.mem_toList.mp mem)
  · rw [located_eq operation isBody] at mem
    exact mem_parameters.mpr (.inl (List.mem_of_mem_filter mem))

/-- The entries of a location mention its parameters and nothing else. -/
theorem mem_parameters_of_locatedEntry {entry : String × Location}
    {entries : List (String × Expression)} (made : operation.locatedEntry config entry = .ok entries)
    {name : String} (mentioned : name ∈ entries.flatMap fun entry => entry.2.identifiers) :
    ∃ parameter ∈ operation.parameters, name = Parameter.owner config ++ parameter.name.display := by
  -- A location without parameters has no entry at all.
  simp only [locatedEntry] at made
  split at made
  · cases made
    simp at mentioned
  · -- What the entry mentions is mentioned by one of its pairs, and each pair is made of one parameter.
    simp only [Outcome.bind_eq_ok, Outcome.pure_eq_ok] at made
    obtain ⟨pairs, done, rfl⟩ := made
    simp only [List.flatMap_singleton, Expression.identifiers_object, List.mem_flatMap] at mentioned
    obtain ⟨pair, inside, mentioned⟩ := mentioned
    obtain ⟨parameter, located, paired⟩ := Outcome.exists_item done inside
    simp only [Outcome.bind_eq_ok, Outcome.pure_eq_ok] at paired
    obtain ⟨key, -, rfl⟩ := paired
    exact ⟨parameter, mem_parameters_of_located located, by simpa using mentioned⟩

/-- The entries for the body mention nothing but the body. -/
theorem mem_parameters_of_bodyEntries {name : String}
    (mentioned : name ∈ (operation.bodyEntries config).flatMap fun entry => entry.2.identifiers) :
    ∃ parameter ∈ operation.parameters, name = Parameter.owner config ++ parameter.name.display := by
  cases found : operation.body with
  | none => simp [bodyEntries, found] at mentioned
  | some parameter =>
    -- The entry for the media type is a literal, which mentions nothing.
    have source : name ∈ (parameter.source config).identifiers := by
      by_cases typed : parameter.mediaType.truthy <;> simpa [bodyEntries, found, typed] using mentioned
    exact ⟨parameter, mem_parameters_of_body found, by simpa using source⟩

/-- What says how to read the response mentions nothing. -/
theorem identifiers_responseEntries :
    (operation.responseEntries.flatMap fun entry => entry.2.identifiers) = [] := by
  by_cases header : operation.responseHeader.truthy <;>
    by_cases errors : operation.errors.isEmpty <;>
      simp [responseEntries, header, errors]

/-- A request mentions parameters of its operation and nothing else. -/
theorem mem_parameters_of_request {request : Expression}
    (made : operation.request config = .ok request) {name : String}
    (mentioned : name ∈ request.identifiers) :
    ∃ parameter ∈ operation.parameters, name = Parameter.owner config ++ parameter.name.display := by
  simp only [Operation.request, Outcome.bind_eq_ok, Outcome.pure_eq_ok] at made
  obtain ⟨located, done, rfl⟩ := made
  simp only [Expression.identifiers_object, List.flatMap_append, List.mem_append,
    identifiers_responseEntries, List.not_mem_nil, or_false] at mentioned
  -- The method and the path are literals; all else is for a location or for the body.
  rcases mentioned with (route | sent) | body
  · simp at route
  · obtain ⟨pair, listed, mentioned⟩ := List.mem_flatMap.mp sent
    obtain ⟨entries, inside, listed⟩ := List.mem_flatten.mp listed
    obtain ⟨entry, -, made⟩ := Outcome.exists_item done inside
    exact mem_parameters_of_locatedEntry made (List.mem_flatMap_of_mem listed mentioned)
  · exact mem_parameters_of_bodyEntries body

/-- A method describes its request by one object, that of its operation. -/
theorem objectArguments_of_toMethod {method : Method} (made : operation.toMethod config = .ok method) :
    ∃ request, operation.request config = .ok request ∧ method.objectArguments = [request] ∧
      method.parameters = operation.methodParameters config := by
  simp only [toMethod, Outcome.bind_eq_ok, Outcome.pure_eq_ok] at made
  obtain ⟨request, described, comment, -, rfl⟩ := made
  refine ⟨request, described, ?_, rfl⟩
  -- The request is an object, so it is the one argument that is not filtered out.
  have literal : ∃ entries, request = .object entries := by
    simp only [Operation.request, Outcome.bind_eq_ok, Outcome.pure_eq_ok] at described
    obtain ⟨located, -, rfl⟩ := described
    exact ⟨_, rfl⟩
  obtain ⟨entries, rfl⟩ := literal
  by_cases angular : config.client = .angular <;> simp [Method.objectArguments, angular]

/-- A parameter is looked up in the type literal under its own name. -/
theorem index_of_methodParameters {parameter : FunctionParameter}
    (mem : parameter ∈ operation.methodParameters config) {object : TypeExpr} {index : Value}
    (indexed : parameter.type = some (.indexed object index)) :
    ∃ p ∈ operation.parameters, p.name = index := by
  -- Only a parameter that is passed on its own has an index for its type.
  simp only [methodParameters] at mem
  split at mem
  · cases mem
  · split at mem
    · -- One object for all parameters has the literal itself for its type.
      simp only [List.mem_singleton] at mem
      subst mem
      simp at indexed
    · obtain ⟨p, inside, rfl⟩ := List.mem_map.mp mem
      simp only [Parameter.positional, Option.some.injEq, TypeExpr.indexed.injEq] at indexed
      exact ⟨p, inside, indexed.2⟩

/-- With one object for all parameters, it has a default exactly if no parameter is required. -/
theorem default_of_methodParameters (object : config.usesOptions = true)
    (nonempty : operation.parameters ≠ []) : ∃ parameter,
      operation.methodParameters config = [parameter] ∧ parameter.name = .text "data" ∧
        (parameter.default = some (.expression (.object []))
          ↔ ∀ p ∈ operation.parameters, p.isRequired = false) := by
  simp only [methodParameters, List.isEmpty_iff, nonempty, object, if_true, if_false]
  refine ⟨_, rfl, rfl, ?_⟩
  -- The default is computed from the same flags that the members have.
  by_cases optional : ∀ p ∈ operation.parameters, p.isRequired = false <;> simp [optional]

/-- The literal for the parameters has one member for each of them. -/
theorem fits_of_mapM {method : Method} (made : operation.toMethod config = .ok method)
    {members : List (Member TypeExpr)}
    (declared : operation.parameters.mapM Parameter.member = .ok members) :
    method.Fits config members := by
  obtain ⟨request, described, passed, parameters⟩ := objectArguments_of_toMethod made
  -- Each parameter has its member, so whatever is read by the name of a parameter is a member.
  have named : ∀ p ∈ operation.parameters, ∃ member ∈ members, member.name = p.name := by
    intro p inside
    obtain ⟨member, listed, made⟩ := Outcome.exists_result declared inside
    exact ⟨member, listed, (Parameter.member_eq_ok made).1⟩
  constructor
  · refine ⟨request, passed, fun name mentioned => ?_⟩
    obtain ⟨p, inside, rfl⟩ := mem_parameters_of_request described mentioned
    obtain ⟨member, listed, same⟩ := named p inside
    exact ⟨member, listed, by rw [same]⟩
  · intro parameter mem object index indexed
    rw [parameters] at mem
    obtain ⟨p, inside, rfl⟩ := index_of_methodParameters mem indexed
    exact named p inside
  · intro object nonempty
    -- With no parameters there would be no members either.
    have given : operation.parameters ≠ [] := by
      rintro none
      rw [none] at declared
      exact nonempty (Outcome.pure_eq_ok.mp declared).symm
    obtain ⟨parameter, only, name, default⟩ := default_of_methodParameters object given
    refine ⟨parameter, parameters.trans only, name, default.trans ?_⟩
    -- A member may be left out exactly if its parameter may.
    constructor
    · intro optional member listed
      obtain ⟨p, inside, made⟩ := Outcome.exists_item declared listed
      exact (Parameter.member_eq_ok made).2.trans (optional p inside)
    · intro optional p inside
      obtain ⟨member, listed, made⟩ := Outcome.exists_result declared inside
      exact (Parameter.member_eq_ok made).2.symm.trans (optional member listed)

end Operation

end TypedClient
