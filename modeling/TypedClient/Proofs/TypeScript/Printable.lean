import Mathlib.Logic.Basic
import TypedClient.Proofs.Outcome
import TypedClient.Proofs.TypeScript.ValueRoundTrip
import TypedClient.Proofs.Value.Part
import TypedClient.Proofs.Value.Size

/-! Which values can be printed as literals. -/

namespace TypedClient

namespace Outcome

/-- A computation has a result if the condition holds, and otherwise fails without reporting the failure as its own. -/
def Settles {α : Type} (x : Outcome α) (condition : Prop) : Prop :=
  (condition ∧ ∃ a, x = .ok a) ∨ (¬ condition ∧ ∃ e, x = .error e ∧ e.isReported = false)

variable {α β : Type} {x : Outcome α} {P Q : Prop}

/-- Whether a computation fails without reporting the failure as its own. -/
def isSilent : Outcome α → Bool
  | .error e => !e.isReported
  | .ok _ => false

/-- A silent computation has a failure that is not reported. -/
theorem isSilent_iff : isSilent x = true ↔ ∃ e, x = .error e ∧ e.isReported = false := by
  cases x <;> simp [isSilent]

/-- There is a result exactly if the condition holds. -/
theorem Settles.iff (settled : Settles x P) : (∃ a, x = .ok a) ↔ P := by
  obtain ⟨held, result⟩ | ⟨failed, e, rfl, -⟩ := settled
  · exact iff_of_true result held
  · exact iff_of_false (by simp) failed

/-- A result settles what holds. -/
theorem Settles.of_ok (held : P) (a : α) : Settles (.ok a) P :=
  .inl ⟨held, a, rfl⟩

/-- A value without the needed shape settles what does not hold. -/
theorem Settles.of_misfit (failed : ¬ P) (fault : Fault) : Settles (misfit fault : Outcome α) P :=
  .inr ⟨failed, _, rfl, rfl⟩

/-- Two steps settle both conditions, the second one behind a result of the first. -/
theorem Settles.bind {f : α → Outcome β} (first : Settles x P) (second : ∀ a, x = .ok a → Settles (f a) Q) :
    Settles (x >>= f) (P ∧ Q) := by
  obtain ⟨held, a, rfl⟩ | ⟨failed, e, rfl, silent⟩ := first
  · rcases second a rfl with ⟨also, b, result⟩ | ⟨failed, e, error, silent⟩
    · exact .inl ⟨⟨held, also⟩, b, result⟩
    · exact .inr ⟨fun both => failed both.2, e, error, silent⟩
  · exact .inr ⟨fun both => failed both.1, e, rfl, silent⟩

/-- A result that is only put in another form settles the same. -/
theorem Settles.map (settled : Settles x P) (f : α → β) : Settles (x >>= fun a => pure (f a)) P := by
  have both := settled.bind (Q := True) fun a _ => .of_ok trivial (f a)
  rwa [and_true] at both

/-- Steps for the items of a list settle what each of them does. -/
theorem Settles.mapM {f : α → Outcome β} {condition : α → Prop} {xs : List α}
    (each : ∀ x ∈ xs, Settles (f x) (condition x)) : Settles (xs.mapM f) (∀ x ∈ xs, condition x) := by
  induction xs with
  | nil => exact .of_ok (List.forall_mem_nil _) []
  | cons x rest ih =>
    obtain ⟨first, others⟩ := List.forall_mem_cons.mp each
    rw [List.mapM_cons, List.forall_mem_cons]
    exact first.bind fun y _ => (ih others).map (y :: ·)

end Outcome

open Outcome (Settles)

/-- A scalar that has no form in JSON: a moment or bytes. -/
def Scalar.IsFormless : Scalar → Prop
  | .moment _ | .bytes _ => True
  | _ => False

namespace Value

/-- A value that JSON has a form for, its parts aside: no set, and no map with a key that is a moment or bytes. -/
def IsWritableKind : Value → Prop
  | .scalar s => ¬ s.IsFormless
  | .map members => ∀ entry ∈ members, ¬ entry.1.IsFormless
  | .set _ => False
  | _ => True

/-- A value of which every part has a form in JSON. -/
def IsWritable (v : Value) : Prop :=
  v.Throughout IsWritableKind

/-- A value that can be printed, its parts aside: keys are always, but a pair is as a whole only in the form that JSON
has for it. -/
def IsPrintableKind : Value → Prop
  | .scalar s => ¬ s.IsFormless
  | .set _ => False
  | .pair key value => (Value.pair key value).IsWritable
  | _ => True

/-- A value of which every part can be printed. -/
def IsPrintable (v : Value) : Prop :=
  v.Throughout IsPrintableKind

variable {items : List Value} {members : Members} {key v : Value}

/-- A list has a form if its items do. -/
theorem isWritable_list : (list items).IsWritable ↔ ∀ v ∈ items, v.IsWritable :=
  throughout_list.trans (and_iff_right trivial)

/-- A map has a form if its keys and its values do. -/
theorem isWritable_map : (map members).IsWritable ↔ ∀ entry ∈ members, ¬ entry.1.IsFormless ∧ entry.2.IsWritable :=
  throughout_map.trans forall₂_and.symm

/-- A pair has a form if its two values do. -/
theorem isWritable_pair : (pair key v).IsWritable ↔ key.IsWritable ∧ v.IsWritable :=
  throughout_pair.trans ((and_iff_right trivial).trans (List.forall_mem_cons.trans
    (and_congr_right' List.forall_mem_singleton)))

/-- A list can be printed if its items can. -/
theorem isPrintable_list : (list items).IsPrintable ↔ ∀ v ∈ items, v.IsPrintable :=
  throughout_list.trans (and_iff_right trivial)

/-- A map can be printed if its values can, whatever its keys are. -/
theorem isPrintable_map : (map members).IsPrintable ↔ ∀ entry ∈ members, entry.2.IsPrintable :=
  throughout_map.trans (and_iff_right trivial)

/-- What has a form in JSON can be printed. -/
theorem IsWritable.isPrintable (writable : v.IsWritable) : v.IsPrintable := by
  intro part inside
  have whole := writable.of_isPart inside
  cases part with
  | pair key value => exact whole
  | map members => trivial
  | _ => exact whole _ (.self _)

/-- A pair can be printed if it has a form in JSON. -/
theorem isPrintable_pair : (pair key v).IsPrintable ↔ (pair key v).IsWritable :=
  ⟨fun printable => printable _ (.self _), IsWritable.isPrintable⟩

end Value

namespace Json

/-- The items of a list are written one by one. -/
theorem writeItems_eq_mapM (items : List Value) : writeItems items = items.mapM write := by
  induction items with
  | nil => rfl
  | cons v rest ih => rw [writeItems, List.mapM_cons, ih]

/-- The members of a map are written one by one. -/
theorem writeMembers_eq_mapM (members : Members) : writeMembers members = members.mapM fun entry => do
    return (← keyText entry.1) ++ ": " ++ (← write entry.2) := by
  induction members with
  | nil => rfl
  | cons entry rest ih => rw [writeMembers, List.mapM_cons, ih]; simp

/-- A scalar is written exactly if it has a form. -/
theorem settles_scalarText (s : Scalar) : Settles (scalarText s) (¬ s.IsFormless) := by
  cases s with
  | moment m => exact .of_misfit (not_not_intro trivial) _
  | bytes content => exact .of_misfit (not_not_intro trivial) _
  | float x =>
    obtain ⟨value, isDouble⟩ := x
    cases value <;> exact .of_ok not_false _
  | _ => exact .of_ok not_false _

/-- A key is written exactly if it has a form. -/
theorem settles_keyText (s : Scalar) : Settles (keyText s) (¬ s.IsFormless) := by
  cases s with
  | text s => exact .of_ok not_false _
  | _ => exact (settles_scalarText _).map quoted

/-- A value is written exactly if each of its parts has a form. -/
theorem settles_write (v : Value) : Settles (write v) v.IsWritable := by
  -- A value is written part by part, so it fails exactly where one of them does.
  induction v using Value.parts_induction with
  | scalar s =>
    rw [write, Value.IsWritable, Value.throughout_scalar]
    exact settles_scalarText s
  | set items =>
    rw [write, Value.IsWritable, Value.throughout_set]
    exact .of_misfit id _
  | list items ih =>
    rw [write, Value.isWritable_list, writeItems_eq_mapM]
    exact (Settles.mapM ih).map _
  | map members ih =>
    rw [write, Value.isWritable_map, writeMembers_eq_mapM]
    refine (Settles.mapM fun entry mem => ?_).map _
    exact (settles_keyText entry.1).bind fun key _ => (ih entry mem).map _
  | pair key value first second =>
    rw [write, Value.isWritable_pair]
    exact first.bind fun key _ => second.map _

end Json

/-- A value is printed, at whatever depth, exactly if each of its parts can be. -/
theorem settles_printValue (v : Value) (level : Nat) : Settles (printValue v level) v.IsPrintable := by
  -- The parts are printed deeper than the value.
  induction v using Value.parts_induction generalizing level with
  | scalar s =>
    rw [Value.IsPrintable, Value.throughout_scalar]
    cases s with
    | text s => exact .of_ok not_false _
    | _ => exact Json.settles_scalarText _
  | set items =>
    rw [Value.IsPrintable, Value.throughout_set]
    exact .of_misfit id _
  | list items ih =>
    rw [Value.isPrintable_list]
    cases items with
    | nil => exact .of_ok (List.forall_mem_nil _) _
    | cons first rest =>
      rw [printValue, TypeScript.printItems_eq_mapM]
      · exact (Settles.mapM fun v mem => (ih v mem _).map _).map _
      · simp
  | map members ih =>
    rw [Value.isPrintable_map]
    cases members with
    | nil => exact .of_ok (List.forall_mem_nil _) _
    | cons first rest =>
      rw [printValue, TypeScript.printMembers_eq_mapM]
      · exact (Settles.mapM fun entry mem => (ih entry mem _).map _).map _
      · simp
  | pair key value _ _ =>
    rw [Value.isPrintable_pair]
    exact Json.settles_write _

end TypedClient
