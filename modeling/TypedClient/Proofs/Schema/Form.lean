import Mathlib.Data.List.Induction
import TypedClient.Proofs.Outcome
import TypedClient.Schema.Resolve

/-! The forms that schemas have, and how a schema of each form is resolved. -/

namespace TypedClient

namespace Value

variable {v value : Value} {key : String} {members : Members}

/-- Only a map has members. -/
theorem members_eq_ok : v.members = .ok members ↔ v = .map members := by
  cases v <;> simp [Value.members, misfit]

/-- Only a map that has a member under the key gives one. -/
theorem require_eq_ok :
    v.require key = .ok value ↔ ∃ members : Members, v = .map members ∧ members.get? key = some value := by
  cases v with
  | map members => cases found : Members.get? members key <;> simp [require, found, misfit]
  | _ => simp [require, misfit]

/-- Only a map has something under a key, and what it lacks reads as null. -/
theorem get_eq_ok :
    v.get key = .ok value ↔ ∃ members : Members, v = .map members ∧ members.get key = value := by
  simp [Value.get, members_eq_ok]

end Value

namespace Schema

/-- Whether one of the listed values can be a value of an enum. -/
def listsEnumerable : Value → Bool
  | .list values => values.any isEnumerable
  | _ => false

/-- Whether the members of a schema list values to choose from; truth values are none. -/
def isEnumeration (members : Members) : Bool :=
  !(members.get "type" == .text "boolean") && listsEnumerable (members.get "enum")

/-- What a schema is read as. -/
inductive Form
  | reference (ref : Value)
  | enumeration
  | array (items : Value)
  | composition (kind : Composition) (alternatives : Value)
  /-- An object that declares properties. -/
  | interface
  /-- An object of which only its values are described. -/
  | dictionary
  | constant (value : Value)
  | token (type : Value)
  /-- A schema that does not restrict the type. -/
  | anything

namespace Form

/-- The form of a schema that is no reference and no enum, the first that fits in a fixed order. -/
def ofStructure (members : Members) : Form :=
  if members.get "type" == .text "array" && (members.get "items").truthy then
    .array (members.get "items")
  else
    match composed? members with
    | some (kind, alternatives) => .composition kind alternatives
    | none =>
      if isObject members then
        if (members.get "properties").truthy then .interface else .dictionary
      else
        match members.get? "const" with
        | some value => .constant value
        | none =>
          match members.get? "type" with
          | some type => .token type
          | none => .anything

/-- The form of a schema with the given members. -/
def of (members : Members) : Form :=
  match members.get? "$ref" with
  | some ref => .reference ref
  | none => if isEnumeration members then .enumeration else ofStructure members

/-- The model of an enum with the given values. -/
def enumerationOf (members : Members) (common : Model) (enum : List EnumValue) : Model :=
  { common with
    variant := .enumeration
    type := .plain "string"
    enum
    isNullable := common.isNullable || match members.get "enum" with
      | .list values => Value.null.isIn values
      | _ => false }

/-- The model of a schema that is read in a form. -/
def model (inner : Resolver) (members : Members) (common : Model) : Form → Outcome Model
  | reference ref => Schema.reference ref common
  | enumeration => enumerationOf members common <$> enumValues members
  | array items => Schema.array inner items common
  | composition kind alternatives => Schema.composition inner kind alternatives members common
  | interface => Schema.interface inner members common
  | dictionary => Schema.dictionary inner members common
  | constant value => .ok (Schema.constant value common)
  | token type => Schema.token type (members.get "format") common
  | anything => .ok common

end Form

/-- Equal values can be values of an enum both or neither. -/
theorem isEnumerable_of_same {a b : Value} (equal : a.same b = true) :
    isEnumerable a = isEnumerable b := by
  -- Values of different kinds are never equal, apart from numbers and truth values.
  cases a <;> cases b <;> simp only [Value.same] at equal <;> try contradiction
  · next s t => cases s <;> cases t <;> simp_all [isEnumerable, Scalar.same, Scalar.number?]
  all_goals rfl

/-- A further value is kept unless it is equal to one that was kept before. -/
theorem distinct_append_singleton (values : List Value) (v : Value) :
    Value.distinct (values ++ [v])
      = if v.isIn (Value.distinct values) then Value.distinct values
        else Value.distinct values ++ [v] :=
  List.foldl_append

/-- Leaving out repeated values leaves an enumerable one if there was any. -/
theorem any_isEnumerable_distinct (values : List Value) :
    (Value.distinct values).any isEnumerable = values.any isEnumerable := by
  -- The values are gone through from the first to the last, so the last one is what comes on top.
  induction values using List.reverseRecOn with
  | nil => rfl
  | append_singleton values v ih =>
    rw [distinct_append_singleton, List.any_append, ← ih]
    split
    · next known =>
      -- A value that is left out is equal to one that is kept.
      obtain ⟨k, kept, equal⟩ := List.any_eq_true.mp known
      have covered : isEnumerable v = true → (Value.distinct values).any isEnumerable = true :=
        fun holds => List.any_eq_true.mpr ⟨k, kept, (isEnumerable_of_same equal).trans holds⟩
      cases holds : isEnumerable v
      · simp [holds]
      · simp [covered holds]
    · rw [List.any_append]

/-- No position of the distinct values is that of an enumerable one if none is listed. -/
theorem filter_isEnumerable_eq_nil {values : List Value} :
    (Value.distinct values).zipIdx.filter (fun entry => isEnumerable entry.1) = []
      ↔ listsEnumerable (.list values) = false := by
  have placed : (Value.distinct values).any isEnumerable
      = (Value.distinct values).zipIdx.any fun entry => isEnumerable entry.1 := by
    conv_lhs => rw [← List.zipIdx_map_fst 0 (Value.distinct values), List.any_map]
    rfl
  rw [listsEnumerable, ← any_isEnumerable_distinct, placed, List.filter_eq_nil_iff, List.any_eq_false]

/-- Without an enumerable value there are no enum values, whatever their labels are. -/
theorem enumValues_of_none {members : Members} (none : listsEnumerable (members.get "enum") = false) :
    enumValues members = .ok [] := by
  rw [enumValues]
  generalize members.get "enum" = listed at none
  cases listed with
  | list values => simp [filter_isEnumerable_eq_nil.mpr none, Pure.pure, Except.pure]
  | _ => rfl

/-- With an enumerable value there are enum values, if their labels are in order. -/
theorem enumValues_ne_nil {members : Members} {enum : List EnumValue}
    (listed : listsEnumerable (members.get "enum") = true) (found : enumValues members = .ok enum) :
    enum ≠ [] := by
  rw [enumValues] at found
  generalize members.get "enum" = values at listed found
  cases values with
  | list values =>
    -- Each position of an enumerable value gives one enum value.
    have sameLength := (Outcome.mapM_eq_ok.mp found).length_eq
    rw [← List.length_pos_iff, ← sameLength, List.length_pos_iff, ne_eq,
      filter_isEnumerable_eq_nil, listed]
    decide
  | _ => cases listed

/-- The values of an enum are those of the listed ones that can be, each once. -/
theorem values_eq_of_enumValues {members : Members} {values : List Value} {enum : List EnumValue}
    (listed : members.get "enum" = .list values) (found : enumValues members = .ok enum) :
    enum.map EnumValue.value = (Value.distinct values).filter isEnumerable := by
  rw [enumValues, listed] at found
  -- The labels that come with the values are of no interest here.
  have kept := Outcome.map_of_mapM Prod.fst EnumValue.value found (by
    intro entry e made
    simp only [enumValueAt, Outcome.bind_eq_ok, Outcome.pure_eq_ok] at made
    obtain ⟨name, -, description, -, rfl⟩ := made
    rfl)
  conv_rhs => rw [← List.zipIdx_map_fst 0 (Value.distinct values), List.filter_map]
  exact kept

/-- A schema that is no reference and no enum is resolved as its form says. -/
theorem structural_eq (inner : Resolver) (members : Members) (common : Model) :
    structural inner members common = (Form.ofStructure members).model inner members common := by
  rw [structural, Form.ofStructure]
  -- Both ask the same questions in the same order.
  split
  · rfl
  · cases composed? members with
    | some found => rfl
    | none =>
      dsimp only
      split
      · split <;> rfl
      · cases members.get? "const" with
        | some value => rfl
        | none => cases members.get? "type" <;> rfl

/-- A schema is resolved as its form says. -/
theorem ofMembers_eq (inner : Resolver) (name : Value) (members : Members) :
    ofMembers inner name members
      = (Form.of members).model inner members (described name members) := by
  rw [ofMembers, Form.of]
  cases members.get? "$ref" with
  | some ref => rfl
  | none =>
    -- Without enum values, a schema is looked at for everything else.
    by_cases boolean : (members.get "type" == .text "boolean") = true
    · simp only [boolean, isEnumeration, if_true]
      exact structural_eq inner members _
    · cases listed : listsEnumerable (members.get "enum") with
      | false =>
        simp only [boolean, isEnumeration, listed, enumValues_of_none listed]
        exact structural_eq inner members _
      | true =>
        simp only [boolean, isEnumeration, listed, Form.model]
        cases found : enumValues members with
        | error e => rfl
        | ok enum =>
          simp [enumValues_ne_nil listed found]
          rfl

/-- A schema is resolved as its form says, its parts with what is smaller than itself. -/
theorem resolve_map (name : Value) (members : Members) :
    resolve name (.map members) = (Form.of members).model
      (fun name part =>
        if part.size < (Value.map members).size then resolve name part else misfit .wrongKind)
      members (described name members) := by
  rw [resolve]
  exact ofMembers_eq ..

/-- Only a map is resolved, and whatever resolves its parts resolves smaller schemas. -/
theorem resolve_eq_ok {name schema : Value} {m : Model} (resolved : resolve name schema = .ok m) :
    ∃ (members : Members) (inner : Resolver), schema = .map members ∧
      (Form.of members).model inner members (described name members) = .ok m ∧
      ∀ {name part m}, inner name part = .ok m → part.size < schema.size ∧ resolve name part = .ok m := by
  cases schema with
  | map members =>
    refine ⟨members, _, rfl, (resolve_map name members).symm.trans resolved, ?_⟩
    intro name part m inside
    split at inside
    · next smaller => exact ⟨smaller, inside⟩
    · cases inside
  | _ =>
    rw [resolve] at resolved
    cases resolved

/-- What holds of a model whenever it holds of the models of all parts holds of every model. -/
theorem resolve_induction {P : Value → Value → Model → Prop}
    (step : ∀ {name : Value} {members : Members} {inner : Resolver} {m : Model},
      (∀ {name part m}, inner name part = .ok m → resolve name part = .ok m ∧ P name part m) →
      (Form.of members).model inner members (described name members) = .ok m →
      P name (.map members) m)
    {name schema : Value} {m : Model} (resolved : resolve name schema = .ok m) : P name schema m := by
  obtain ⟨members, inner, same, made, within⟩ := resolve_eq_ok resolved
  rw [same]
  exact step (fun inside => ⟨(within inside).2, resolve_induction step (within inside).2⟩) made
termination_by schema.size
decreasing_by exact (within inside).1

end Schema

end TypedClient
