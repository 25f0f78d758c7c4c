import TypedClient.Proofs.Distinct
import TypedClient.Value.Equality

/-! What texts and null are equal to as document values, lists of values that are all different, and maps that
agree. -/

namespace TypedClient.Value

variable {value : Value} {items : List Value} {s : String}

/-- A text is equal to itself and to nothing else. -/
theorem beq_text : (value == text s) = true ↔ value = text s := by
  -- Numbers of different types can be equal as values, but a text is equal to nothing but a text.
  change value.same (.text s) = true ↔ _
  cases value with
  | scalar a => cases a <;> simp [Value.same, Scalar.same, Scalar.number?]
  | _ => simp [Value.same]

/-- A list has a text if the text itself is one of its items. -/
theorem isIn_text : (text s).isIn items = true ↔ text s ∈ items := by
  rw [isIn, List.any_eq_true]
  constructor
  · rintro ⟨item, mem, equal⟩
    exact beq_text.mp equal ▸ mem
  · exact fun mem => ⟨_, mem, beq_text.mpr rfl⟩

/-- A list that null is an item of has null. -/
theorem isIn_null (mem : null ∈ items) : null.isIn items = true :=
  List.any_eq_true.mpr ⟨null, mem, by decide⟩

/-- No two values are kept of a list that are equal to each other. -/
theorem pairwise_distinct (items : List Value) :
    (distinct items).Pairwise fun a b => a.same b = false :=
  pairwise_foldl_keep Value.same items

end TypedClient.Value

namespace TypedClient.Members

variable {members other : Members} {keyword : String} {v w : Value}

/-- A text key is looked for behind all members that have other ones. -/
theorem get?_cons_text (k key : String) (v : Value) (rest : Members) :
    Members.get? ((.text k, v) :: rest) key = if key = k then some v else rest.get? key := by
  by_cases same : key = k
  · simp [get?, same]
  · have passed : (Scalar.text key == Scalar.text k) = false := by simpa using same
    simp [get?, List.lookup_cons, passed, same]

/-- An empty map has nothing under any key. -/
theorem get?_nil (key : String) : Members.get? [] key = none :=
  rfl

/-- The two maps have the same under every text key but one. -/
def AgreeBeside (keyword : String) (members other : Members) : Prop :=
  ∀ key, key ≠ keyword → members.get? key = other.get? key

/-- Maps that differ in the value of one member agree beside it. -/
theorem agreeBeside_append (before after : Members) :
    AgreeBeside keyword (before ++ (.text keyword, v) :: after) (before ++ (.text keyword, w) :: after) := by
  intro key apart
  have passed : (Scalar.text key == Scalar.text keyword) = false := by simpa using apart
  -- The member is passed on the way to any other key.
  simp [get?, List.lookup_append, List.lookup_cons, passed]

theorem AgreeBeside.get_eq (agree : AgreeBeside keyword members other) (key : String) (apart : key ≠ keyword) :
    members.get key = other.get key := by
  rw [Members.get, Members.get, agree key apart]

theorem AgreeBeside.has_eq (agree : AgreeBeside keyword members other) (key : String) (apart : key ≠ keyword) :
    members.has key = other.has key := by
  rw [Members.has, Members.has, agree key apart]

end TypedClient.Members
