import TypedClient.Proofs.Declaration.Services
import TypedClient.Proofs.Operation.Resolve
import TypedClient.TypeScript.Render

/-! The parameters of a method that are passed one by one: how each is printed, and in which order. -/

namespace TypedClient

/-- A printed parameter, taken apart. -/
structure PrintedParameter where
  name : String
  /-- Whether a question mark stands behind the name. -/
  isMarked : Bool
  type : String
  /-- What stands behind the equals sign, if there is one. -/
  initializer : Option String

namespace PrintedParameter

/-- The text of a printed parameter. -/
def text (printed : PrintedParameter) : String :=
  printed.name ++ (if printed.isMarked then "?" else "") ++ (": " ++ printed.type)
    ++ match printed.initializer with
      | some value => " = " ++ value
      | none => ""

/-- Every call has to pass the parameter. -/
def IsMandatory (printed : PrintedParameter) : Prop :=
  printed.isMarked = false ∧ printed.initializer = none

/-- No parameter that every call has to pass stands behind one with a question mark. -/
def Legal (list : List PrintedParameter) : Prop :=
  list.Pairwise fun earlier later => earlier.isMarked = true → ¬ later.IsMandatory

end PrintedParameter

/-- How a parameter is printed whose type is a member of the type of all parameters. -/
structure Parameter.PrintsAs (dataType : String) (parameter : Parameter) (printed : PrintedParameter) :
    Prop where
  name : printed.name = parameter.name.display
  type : printed.type = dataType ++ "[" ++ enumLiteral false parameter.name ++ "]"
  /-- The question mark says that nothing takes the place of what is left out. -/
  marked : printed.isMarked = true ↔ parameter.isRequired = false ∧ parameter.default = .null
  /-- The default is what a call that leaves the parameter out passes. -/
  initializer : (parameter.default = .null ∧ printed.initializer = none) ∨
    (parameter.default ≠ .null ∧ ∃ value, printValue parameter.default 0 = .ok value ∧
      printed.initializer = some value)

namespace Parameter

variable {dataType : String} {parameter : Parameter} {printed : PrintedParameter}

/-- A parameter needs a value if it is required and has no default. -/
theorem needsValue_iff :
    parameter.needsValue = true ↔ parameter.isRequired = true ∧ parameter.default = .null := by
  rw [needsValue, Bool.and_eq_true]
  refine and_congr_right fun _ => ?_
  split <;> simp_all

/-- Every call has to pass a parameter exactly if it needs a value. -/
theorem PrintsAs.isMandatory_iff (prints : parameter.PrintsAs dataType printed) :
    printed.IsMandatory ↔ parameter.needsValue = true := by
  have unmarked : printed.isMarked = false ↔ parameter.isRequired = true ∨ parameter.default ≠ .null := by
    rw [← Bool.not_eq_true, prints.marked, not_and_or, Bool.not_eq_false]
  rw [PrintedParameter.IsMandatory, unmarked, needsValue_iff]
  -- With a default there is an initializer, and without one only a required parameter goes unmarked.
  obtain ⟨absent, none⟩ | ⟨given, value, -, some⟩ := prints.initializer
  · simp [absent, none]
  · simp [given, some]

/-- A parameter is printed with what its flags and its default ask for. -/
theorem exists_printsAs (written : ∃ text, printValue parameter.default 0 = .ok text) :
    ∃ printed, printParameter (parameter.positional dataType) = .ok printed.text ∧
      parameter.PrintsAs dataType printed := by
  obtain ⟨value, written⟩ := written
  -- Without a default it depends on the flag whether the parameter is marked; with one it never is.
  by_cases absent : parameter.default = .null
  · refine ⟨{ name := parameter.name.display
              isMarked := !parameter.isRequired
              type := dataType ++ "[" ++ enumLiteral false parameter.name ++ "]"
              initializer := none }, ?_, rfl, rfl, by simp [absent], .inl ⟨absent, rfl⟩⟩
    cases required : parameter.isRequired <;>
      simp [printParameter, positional, absent, required, printType, PrintedParameter.text]
  · refine ⟨{ name := parameter.name.display
              isMarked := false
              type := dataType ++ "[" ++ enumLiteral false parameter.name ++ "]"
              initializer := some value }, ?_, rfl, rfl, by simp [absent], .inr ⟨absent, value, written, rfl⟩⟩
    simp [printParameter, positional, printType, printInitializer, written, PrintedParameter.text]

/-- Parameters are printed one by one if all their defaults can be written. -/
theorem exists_printParameters (dataType : String) {parameters : List Parameter}
    (written : ∀ p ∈ parameters, ∃ text, printValue p.default 0 = .ok text) :
    ∃ printed : List PrintedParameter,
      (parameters.map (positional dataType)).mapM printParameter
        = .ok (printed.map PrintedParameter.text) ∧
      List.Forall₂ (PrintsAs dataType) parameters printed := by
  induction parameters with
  | nil => exact ⟨[], rfl, .nil⟩
  | cons p rest ih =>
    obtain ⟨first, others⟩ := List.forall_mem_cons.mp written
    obtain ⟨head, headPrinted, headPrints⟩ := exists_printsAs first
    obtain ⟨printed, restPrinted, prints⟩ := ih others
    refine ⟨head :: printed, ?_, .cons headPrints prints⟩
    simp [List.mapM_cons, headPrinted, restPrinted]

/-- Where no parameter that needs a value stands behind one that needs none, the printed list is legal. -/
theorem legal_of_ordered {parameters : List Parameter} {printed : List PrintedParameter}
    (each : List.Forall₂ (PrintsAs dataType) parameters printed)
    (ordered : parameters.Pairwise fun p q => q.needsValue = true → p.needsValue = true) :
    PrintedParameter.Legal printed := by
  induction each with
  | nil => exact .nil
  | cons head rest ih =>
    obtain ⟨first, ordered⟩ := List.pairwise_cons.mp ordered
    refine List.pairwise_cons.mpr ⟨fun later mem marked mandatory => ?_, ih ordered⟩
    -- A parameter that every call has to pass would have come before the first one.
    obtain ⟨q, inside, prints⟩ := Outcome.exists_related rest.flip mem
    have needed := head.isMandatory_iff.mpr (first q inside (prints.isMandatory_iff.mp mandatory))
    cases marked.symm.trans needed.1

end Parameter

namespace Operation

variable {document url tag definition : Value} {method : String} {config style : Config}
  {ofPath : List Parameter} {operation : Operation}

open Classical in
/-- A method that takes its parameters one by one has one for each parameter of its operation. Those that need
a value come first, each group in the order in which the parameters were merged, and nothing that every call
has to pass stands behind a question mark. -/
theorem legal_of_resolve
    (resolved : resolve document url method tag definition ofPath config = .ok operation)
    (separate : style.usesOptions = false)
    (written : ∀ p ∈ operation.parameters, ∃ text, printValue p.default 0 = .ok text) :
    ∃ (members : Members) (own : List Parameter) (requestBody : Option Parameter)
      (printed : List PrintedParameter),
      definition = .map members ∧
      Parameter.ofList document ((members.get "parameters").orElse (.list [])) = .ok own ∧
      bodyOf? document members = .ok requestBody ∧
      let merged := (ofPath.filter fun p => ¬ p.Overridden own) ++ own
      let mediaType := requestMediaType document members
      StablyOrdered Parameter.needsValue
        (merged.map (Parameter.taking mediaType) ++ requestBody.toList) operation.parameters ∧
      (∀ built, operation.toMethod style = .ok built →
        built.parameters = operation.methodParameters style) ∧
      printParameters (operation.methodParameters style)
        = .ok (", ".intercalate (printed.map PrintedParameter.text)) ∧
      List.Forall₂ (Parameter.PrintsAs operation.dataTypeName) operation.parameters printed ∧
      PrintedParameter.Legal printed := by
  obtain ⟨members, own, requestBody, isMap, ownMade, bodyMade, -, placed⟩ := distributes_of_resolve resolved
  obtain ⟨printed, done, each⟩ :=
    Parameter.exists_printParameters operation.dataTypeName written
  -- Without parameters the method has none either, as if each of them had been turned into one.
  have all : operation.methodParameters style
      = operation.parameters.map (Parameter.positional operation.dataTypeName) := by
    cases none : operation.parameters <;> simp [methodParameters, none, separate]
  refine ⟨members, own, requestBody, printed, isMap, ownMade, bodyMade, placed.ordered, ?_, ?_, each,
    Parameter.legal_of_ordered each placed.ordered.ordered⟩
  · intro built made
    obtain ⟨-, -, -, parameters⟩ := objectArguments_of_toMethod made
    exact parameters
  · rw [printParameters, all, done]
    rfl

/-- A default from the path, an optional parameter, one that is required but has a default, and a body. -/
theorem legal_of_resolve_body :
    let ofPath : List Parameter := [
      { name := "page", prop := "page", location := .query, default := .int 1 },
      { name := "id", prop := "id", location := .path, isRequired := true }]
    let definition : Value := .map [
      (.text "parameters", .list [
        .map [(.text "name", "sort"), (.text "in", "query")],
        .map [(.text "name", "kind"), (.text "in", "query"), (.text "required", .bool true),
          (.text "schema", .map [(.text "type", "string"), (.text "default", "all")])]]),
      (.text "requestBody", .map [(.text "required", .bool true)])]
    let printedText := "id: UsersPutUsersData['id'], requestBody: UsersPutUsersData['requestBody'], "
      ++ "page: UsersPutUsersData['page'] = 1, sort?: UsersPutUsersData['sort'], "
      ++ "kind: UsersPutUsersData['kind'] = 'all'"
    ∃ (operation : Operation) (printed : List PrintedParameter),
      resolve (.map []) "/users" "put" "users" definition ofPath {} = .ok operation ∧
      printParameters (operation.methodParameters { useOptions := .bool false }) = .ok printedText ∧
      ", ".intercalate (printed.map PrintedParameter.text) = printedText ∧
      List.Forall₂ (Parameter.PrintsAs "UsersPutUsersData") operation.parameters printed ∧
      PrintedParameter.Legal printed := by
  intro ofPath definition printedText
  obtain ⟨operation, resolved, seen⟩ := Outcome.exists_of_any
    (x := resolve (.map []) "/users" "put" "users" definition ofPath {})
    (p := fun operation =>
      operation.parameters.all (fun p => (printValue p.default 0).toOption.any fun _ => true) &&
        decide (operation.dataTypeName = "UsersPutUsersData") &&
          (printParameters (operation.methodParameters { useOptions := .bool false })).toOption.any
            fun text => decide (text = printedText))
    (by decide +kernel)
  simp only [Bool.and_eq_true, List.all_eq_true, decide_eq_true_eq] at seen
  obtain ⟨⟨written, named⟩, joined⟩ := seen
  obtain ⟨text, done, same⟩ := Outcome.exists_of_any joined
  obtain rfl := of_decide_eq_true same
  have writes : ∀ p ∈ operation.parameters, ∃ text, printValue p.default 0 = .ok text := fun p mem =>
    (Outcome.exists_of_any (written p mem)).imp fun _ found => found.1
  have separate : ({ useOptions := .bool false } : Config).usesOptions = false := rfl
  obtain ⟨-, -, -, printed, -, -, -, -, -, made, each, legal⟩ := legal_of_resolve resolved separate writes
  exact ⟨operation, printed, resolved, done, Except.ok.inj (made.symm.trans done), named ▸ each, legal⟩

end Operation

end TypedClient
