import TypedClient.Value.Access

/-! The parts of a value, at any depth. -/

namespace TypedClient.Value

/-- The first value is the second one or stands somewhere inside it. -/
inductive IsPart : Value → Value → Prop
  | self (v : Value) : IsPart v v
  | item {part v : Value} {items : List Value} (mem : v ∈ items) (inside : IsPart part v) :
      IsPart part (.list items)
  | member {part : Value} {entry : Scalar × Value} {members : Members} (mem : entry ∈ members)
      (inside : IsPart part entry.2) : IsPart part (.map members)
  | paired {part v key value : Value} (mem : v ∈ [key, value]) (inside : IsPart part v) :
      IsPart part (.pair key value)

/-- What is asked holds of a value and of all its parts. -/
def Throughout (asked : Value → Prop) (v : Value) : Prop :=
  ∀ part, IsPart part v → asked part

variable {v part whole : Value} {members : Members} {key : String}

/-- A part of a part is a part. -/
theorem IsPart.trans (first : IsPart v part) (second : IsPart part whole) : IsPart v whole := by
  -- The way down to the part goes on inside it.
  induction second with
  | self => exact first
  | item mem _ ih => exact .item mem ih
  | member mem _ ih => exact .member mem ih
  | paired mem _ ih => exact .paired mem ih

section Throughout

variable {asked other : Value → Prop} {items : List Value}

/-- A scalar has no other parts. -/
theorem throughout_scalar (s : Scalar) : (scalar s).Throughout asked ↔ asked (.scalar s) :=
  ⟨fun held => held _ (.self _), fun own => fun | _, .self _ => own⟩

/-- A set has no other parts. -/
theorem throughout_set (items : List Scalar) : (set items).Throughout asked ↔ asked (.set items) :=
  ⟨fun held => held _ (.self _), fun own => fun | _, .self _ => own⟩

/-- The parts of a list are those of its items. -/
theorem throughout_list : (list items).Throughout asked ↔
    asked (.list items) ∧ ∀ v ∈ items, v.Throughout asked := by
  refine ⟨fun held => ⟨held _ (.self _), fun v mem part inside => held part (.item mem inside)⟩, ?_⟩
  rintro ⟨own, each⟩ _ (_ | ⟨mem, inside⟩)
  · exact own
  · exact each _ mem _ inside

/-- The parts of a map are those of its values. -/
theorem throughout_map : (map members).Throughout asked ↔
    asked (.map members) ∧ ∀ entry ∈ members, entry.2.Throughout asked := by
  refine ⟨fun held => ⟨held _ (.self _), fun entry mem part inside => held part (.member mem inside)⟩, ?_⟩
  rintro ⟨own, each⟩ _ (_ | _ | ⟨mem, inside⟩)
  · exact own
  · exact each _ mem _ inside

/-- The parts of a pair are those of its two values. -/
theorem throughout_pair {first second : Value} : (pair first second).Throughout asked ↔
    asked (.pair first second) ∧ ∀ v ∈ [first, second], v.Throughout asked := by
  refine ⟨fun held => ⟨held _ (.self _), fun v mem part inside => held part (.paired mem inside)⟩, ?_⟩
  rintro ⟨own, each⟩ _ (_ | _ | _ | ⟨mem, inside⟩)
  · exact own
  · exact each _ mem _ inside

/-- What holds throughout a value does so throughout its parts. -/
theorem Throughout.of_isPart (held : v.Throughout asked) (inside : IsPart part v) : part.Throughout asked :=
  fun _ deeper => held _ (deeper.trans inside)

/-- What follows from what holds throughout a value holds throughout it. -/
theorem Throughout.imp (held : v.Throughout asked) (follows : ∀ part, asked part → other part) :
    v.Throughout other :=
  fun part inside => follows part (held part inside)

end Throughout

/-- What a map has under a key is a part of it. -/
theorem isPart_of_get? (found : members.get? key = some v) : IsPart v (.map members) := by
  rw [Members.get?, List.lookup_eq_some_iff] at found
  obtain ⟨before, after, rfl, -⟩ := found
  have mem : (Scalar.text key, v) ∈ before ++ (Scalar.text key, v) :: after := by simp
  exact .member mem (.self v)

/-- What counts as true under a key of a map is a part of it. -/
theorem isPart_of_truthy (truthy : (members.get key).truthy = true) :
    IsPart (members.get key) (.map members) := by
  cases found : members.get? key with
  | some v =>
    rw [Members.get, found]
    exact isPart_of_get? found
  | none => simp [Members.get, found, Value.truthy, Scalar.truthy] at truthy

/-- A map that a value is gone through by is a part of the value. -/
theorem isPart_of_mem_elements {parts : List Value} (listed : whole.elements = .ok parts)
    (mem : .map members ∈ parts) : IsPart (.map members) whole := by
  -- Whatever is no list and no pair is gone through by scalars.
  cases whole with
  | list items =>
    cases listed
    exact .item mem (.self _)
  | pair key value =>
    cases listed
    exact .paired mem (.self _)
  | map entries =>
    cases listed
    simp at mem
  | set items =>
    cases listed
    simp at mem
  | scalar s =>
    cases s with
    | text s =>
      cases listed
      simp at mem
    | bytes content =>
      cases listed
      simp at mem
    | _ => cases listed

end TypedClient.Value
