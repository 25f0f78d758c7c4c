import TypedClient.Schema.EnumValues

/-! Equality of the values that enums can have: these are compared as numbers, or else as they are. -/

namespace TypedClient

/-- What a scalar of an enum is compared by: the number that it counts as, where zero has no sign, or else itself. -/
def Scalar.essence (s : Scalar) : Floating ⊕ Scalar :=
  match s.number? with
  | some x => .inl (if x.isZero then .finite false 0 0 else x)
  | none => .inr s

/-- What a value of an enum is compared by. -/
def Value.essence : Value → Option (Floating ⊕ Scalar)
  | scalar s => some s.essence
  | _ => none

/-- Two numbers are the same if they are equal once zero has lost its sign. -/
theorem Floating.sameNumber_iff {x y : Floating} : x.sameNumber y = true ↔
    (if x.isZero then finite false 0 0 else x) = if y.isZero then finite false 0 0 else y := by
  have zero : (finite false 0 0).isZero = true := rfl
  have other {z : Floating} (some : z.isZero = false) : finite false 0 0 ≠ z := by
    rintro rfl
    cases zero.symm.trans some
  rw [sameNumber]
  cases left : x.isZero <;> cases right : y.isZero
  · simp
  · simpa [(other left).symm] using fun same : x = y => by simp_all
  · simpa [other right] using fun same : x = y => by simp_all
  · simp

/-- Scalars that are not moments both are equal if they are compared by the same. -/
theorem Scalar.same_iff_essence {a b : Scalar} (noMoments : ∀ m n, ¬ (a = moment m ∧ b = moment n)) :
    a.same b = true ↔ a.essence = b.essence := by
  rw [Scalar.same.eq_def]
  split
  · next m n => exact absurd ⟨rfl, rfl⟩ (noMoments m n)
  · rw [essence, essence]
    cases a.number? <;> cases b.number? <;> simp [Floating.sameNumber_iff]

/-- Values of which one can be in an enum are equal if they are compared by the same. -/
theorem Value.same_iff_essence {v w : Value}
    (enumerable : Schema.isEnumerable v = true ∨ Schema.isEnumerable w = true) :
    v.same w = true ↔ v.essence = w.essence := by
  cases v with
  | scalar a =>
    cases w with
    | scalar b =>
      -- Only for two moments is it in doubt, and no enum holds one.
      have noMoments : ∀ m n, ¬ (a = .moment m ∧ b = .moment n) := by
        rintro m n ⟨rfl, rfl⟩
        simp [Schema.isEnumerable] at enumerable
      simpa [same, essence] using Scalar.same_iff_essence noMoments
    | _ => simp [same, essence]
  | _ =>
    cases w with
    | scalar => simp [same, essence]
    | _ => simp [Schema.isEnumerable] at enumerable

namespace Schema

variable {v w : Value}

/-- A value of an enum is equal to itself. -/
theorem same_self_of_isEnumerable (enumerable : isEnumerable v = true) : v.same v = true :=
  (Value.same_iff_essence (.inl enumerable)).mpr rfl

/-- A value of an enum is equal to what is equal to it. -/
theorem same_comm_of_isEnumerable (enumerable : isEnumerable v = true) : v.same w = w.same v := by
  rw [Bool.eq_iff_iff, Value.same_iff_essence (.inl enumerable), Value.same_iff_essence (.inr enumerable)]
  exact eq_comm

end Schema

end TypedClient
