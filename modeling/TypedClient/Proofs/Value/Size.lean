import TypedClient.Value.Access

/-! Sizes of values: the parts of a value are smaller than the value. -/

namespace TypedClient.Value

/-- Every value has a size. -/
theorem size_pos (v : Value) : 0 < v.size := by
  cases v <;> simp [size]

/-- An item is no larger than all items together. -/
theorem size_le_sizeOfItems {v : Value} {items : List Value} (mem : v ∈ items) :
    v.size ≤ sizeOfItems items := by
  induction items with
  | nil => cases mem
  | cons first rest ih =>
    rw [sizeOfItems]
    rcases List.mem_cons.mp mem with rfl | later
    · omega
    · have := ih later
      omega

/-- The value of a member is no larger than those of all members together. -/
theorem size_le_sizeOfMembers {entry : Scalar × Value} {members : Members}
    (mem : entry ∈ members) : entry.2.size ≤ sizeOfMembers members := by
  induction members with
  | nil => cases mem
  | cons first rest ih =>
    rw [sizeOfMembers]
    rcases List.mem_cons.mp mem with rfl | later
    · omega
    · have := ih later
      omega

/-- What a map has under a key is smaller than the map. -/
theorem size_get?_lt {members : Members} {key : String} {v : Value}
    (found : members.get? key = some v) : v.size < (map members).size := by
  rw [Members.get?, List.lookup_eq_some_iff] at found
  obtain ⟨before, after, rfl, -⟩ := found
  -- The member stands behind others that have another key.
  have mem : (Scalar.text key, v) ∈ before ++ (Scalar.text key, v) :: after := by simp
  have : v.size ≤ _ := size_le_sizeOfMembers mem
  simp only [size]
  omega

/-- What counts as true under a key of a map is smaller than the map. -/
theorem size_get_lt {members : Members} {key : String} (truthy : (members.get key).truthy = true) :
    (members.get key).size < (map members).size := by
  cases found : members.get? key with
  | some v =>
    rw [Members.get, found]
    exact size_get?_lt found
  | none => simp [Members.get, found, Value.truthy, Scalar.truthy] at truthy

/-- What a value goes through one by one is no larger than the value. -/
theorem size_le_of_mem_elements {v part : Value} {parts : List Value}
    (listed : v.elements = .ok parts) (mem : part ∈ parts) : part.size ≤ v.size := by
  have positive := v.size_pos
  -- Lists and pairs give their parts; what else can be gone through gives scalars, than which nothing is smaller.
  cases v with
  | list items =>
    cases listed
    have := size_le_sizeOfItems mem
    simp only [size]
    omega
  | map members =>
    cases listed
    obtain ⟨entry, -, rfl⟩ := List.mem_map.mp mem
    simp [size]
  | set items =>
    cases listed
    obtain ⟨item, -, rfl⟩ := List.mem_map.mp mem
    simp [size]
  | pair key value =>
    cases listed
    simp only [List.mem_cons, List.not_mem_nil, or_false] at mem
    rcases mem with rfl | rfl <;> simp only [size] <;> omega
  | scalar s =>
    cases s with
    | text s =>
      cases listed
      obtain ⟨code, -, rfl⟩ := List.mem_map.mp mem
      simp [size]
    | bytes content =>
      cases listed
      obtain ⟨byte, -, rfl⟩ := List.mem_map.mp mem
      simp [size]
    | _ => cases listed

/-- What holds of values without parts, and of a value if it holds of the parts that it is made of, holds of all. -/
@[elab_as_elim] theorem parts_induction {P : Value → Prop} (scalar : ∀ s, P (.scalar s)) (set : ∀ items, P (.set items))
    (list : ∀ items, (∀ v ∈ items, P v) → P (.list items))
    (map : ∀ members, (∀ entry ∈ members, P entry.2) → P (.map members))
    (pair : ∀ key value, P key → P value → P (.pair key value)) (v : Value) : P v := by
  -- The parts of a value are smaller than it, which carries the recursion.
  cases v with
  | scalar s => exact scalar s
  | set items => exact set items
  | list items => exact list items fun v mem => parts_induction scalar set list map pair v
  | map members => exact map members fun entry mem => parts_induction scalar set list map pair entry.2
  | pair key value =>
    exact pair key value (parts_induction scalar set list map pair key) (parts_induction scalar set list map pair value)
termination_by v.size
decreasing_by
  · have := size_le_sizeOfItems mem
    simp only [size]
    omega
  · have := size_le_sizeOfMembers mem
    simp only [size]
    omega
  all_goals
    have := key.size_pos
    have := value.size_pos
    simp only [size]
    omega

end TypedClient.Value
