import Mathlib.Data.List.Forall2
import Mathlib.Data.List.Perm.Basic
import TypedClient.Error

/-! Taking apart the computations that succeed. -/

namespace TypedClient.Outcome

variable {α β : Type}

/-- A sequence of two steps succeeds when both do. -/
@[simp] theorem bind_eq_ok {x : Outcome α} {f : α → Outcome β} {b : β} :
    (x >>= f) = .ok b ↔ ∃ a, x = .ok a ∧ f a = .ok b := by
  -- A failed step is never followed by another one.
  cases x <;> simp [Bind.bind, Except.bind]

/-- A step that cannot fail gives its value. -/
@[simp] theorem pure_eq_ok {a b : α} : (pure a : Outcome α) = .ok b ↔ a = b := by
  simp [Pure.pure, Except.pure]

/-- A changed result comes from a result. -/
@[simp] theorem map_eq_ok {f : α → β} {x : Outcome α} {b : β} :
    f <$> x = .ok b ↔ ∃ a, x = .ok a ∧ f a = b := by
  cases x <;> simp [Functor.map, Except.map]

/-- A sequence whose first step depends on a condition succeeds when the step that is taken and the
second one do. -/
theorem ite_bind_eq_ok {c : Prop} [Decidable c] {x y : Outcome α} {f : α → Outcome β} {b : β} :
    (if c then x >>= f else y >>= f) = .ok b ↔ ∃ a, (if c then x else y) = .ok a ∧ f a = .ok b := by
  split <;> exact bind_eq_ok

/-- What a step gives that is taken on a condition only is the result of the step. -/
theorem eq_ok_of_optional {c : Prop} [Decidable c] {x : Outcome α} {given : Option α} {a : α}
    (done : (if c then some <$> x else pure none) = .ok given) (mem : a ∈ given) : x = .ok a := by
  split at done
  · obtain ⟨_, result, rfl⟩ := map_eq_ok.mp done
    cases mem
    exact result
  · cases done
    cases mem

/-- A step for each item of a list succeeds when it does for each of them. -/
theorem mapM_eq_ok {f : α → Outcome β} {xs : List α} {ys : List β} :
    xs.mapM f = .ok ys ↔ List.Forall₂ (fun x y => f x = .ok y) xs ys := by
  -- The results grow with the items, so they stay quantified over.
  induction xs generalizing ys with
  | nil =>
    simp only [List.mapM_nil, pure_eq_ok, List.forall₂_nil_left_iff]
    -- Without an item there is no result, which says the same in both orders.
    exact eq_comm
  | cons x xs ih =>
    simp only [List.mapM_cons, bind_eq_ok, pure_eq_ok, ih]
    -- The first step and all others succeed apart from each other.
    constructor
    · rintro ⟨y, head, rest, tail, rfl⟩
      exact .cons head tail
    · rintro (_ | ⟨head, tail⟩)
      exact ⟨_, head, _, tail, rfl⟩

/-- A second step can only depend on what comes of the first one. -/
theorem bind_congr {x : Outcome α} {f g : α → Outcome β} (same : ∀ a, x = .ok a → f a = g a) :
    x >>= f = x >>= g := by
  cases x with
  | error e => rfl
  | ok a => exact same a rfl

/-- Steps that do the same for each item of a list do the same for the list. -/
theorem mapM_congr {f g : α → Outcome β} {xs : List α} (same : ∀ x ∈ xs, f x = g x) :
    xs.mapM f = xs.mapM g := by
  induction xs with
  | nil => rfl
  | cons x rest ih =>
    obtain ⟨first, others⟩ := List.forall_mem_cons.mp same
    rw [List.mapM_cons, List.mapM_cons, first, ih others]

/-- There is a result for a list if there is one for each item. -/
theorem exists_mapM {f : α → Outcome β} {xs : List α} (each : ∀ x ∈ xs, ∃ y, f x = .ok y) :
    ∃ ys, xs.mapM f = .ok ys := by
  induction xs with
  | nil => exact ⟨[], rfl⟩
  | cons x xs ih =>
    obtain ⟨y, head⟩ := each x List.mem_cons_self
    obtain ⟨ys, tail⟩ := ih fun other mem => each other (List.mem_cons_of_mem _ mem)
    exact ⟨y :: ys, by simp [List.mapM_cons, head, tail]⟩

/-- What is related to a list item by item has something related to each item of it. -/
theorem exists_related {R : α → β → Prop} {xs : List α} {ys : List β}
    (related : List.Forall₂ R xs ys) {x : α} (mem : x ∈ xs) : ∃ y ∈ ys, R x y := by
  induction related with
  | nil => cases mem
  | cons head _ ih =>
    -- The item is the first one or a later one, and what it is related to stands at the same place.
    rcases List.mem_cons.mp mem with rfl | later
    · exact ⟨_, List.mem_cons_self, head⟩
    · obtain ⟨y, inside, held⟩ := ih later
      exact ⟨y, List.mem_cons_of_mem _ inside, held⟩

/-- Each item that is gone through gives one of the results. -/
theorem exists_result {f : α → Outcome β} {xs : List α} {ys : List β} (done : xs.mapM f = .ok ys)
    {x : α} (mem : x ∈ xs) : ∃ y ∈ ys, f x = .ok y :=
  exists_related (mapM_eq_ok.mp done) mem

/-- Each result comes from one of the items. -/
theorem exists_item {f : α → Outcome β} {xs : List α} {ys : List β} (done : xs.mapM f = .ok ys)
    {y : β} (mem : y ∈ ys) : ∃ x ∈ xs, f x = .ok y :=
  -- Items and results are related to each other, so this is the same fact from the other side.
  exists_related (R := fun y x => f x = .ok y) (mapM_eq_ok.mp done).flip mem

/-- What is related to the items of a list is related through them to what these are related to. -/
theorem related_trans {γ : Type} {R : α → β → Prop} {S : β → γ → Prop} {xs : List α} {ys : List β}
    {zs : List γ} (first : List.Forall₂ R xs ys) (second : List.Forall₂ S ys zs) :
    List.Forall₂ (fun x z => ∃ y, R x y ∧ S y z) xs zs := by
  -- The three lists are gone through side by side.
  induction first generalizing zs with
  | nil =>
    cases second
    exact .nil
  | cons head _ ih =>
    obtain _ | ⟨next, rest⟩ := second
    exact .cons ⟨_, head, next⟩ (ih rest)

/-- Two lists are related through a third one exactly if their items are, each through an item of its own. -/
theorem exists_between {γ : Type} {R : α → β → Prop} {S : β → γ → Prop} {xs : List α}
    {zs : List γ} : (∃ ys, List.Forall₂ R xs ys ∧ List.Forall₂ S ys zs) ↔
      List.Forall₂ (fun x z => ∃ y, R x y ∧ S y z) xs zs := by
  refine ⟨fun ⟨ys, first, second⟩ => related_trans first second, fun related => ?_⟩
  induction related with
  | nil => exact ⟨[], .nil, .nil⟩
  | cons head _ ih =>
    obtain ⟨y, before, behind⟩ := head
    obtain ⟨ys, first, second⟩ := ih
    exact ⟨y :: ys, .cons before first, .cons behind second⟩

/-- What is related to the items of a list is related through them to the results they give. -/
theorem related_of_mapM {γ : Type} {R : α → β → Prop} {f : β → Outcome γ} {xs : List α} {ys : List β}
    {zs : List γ} (related : List.Forall₂ R xs ys) (done : ys.mapM f = .ok zs) :
    List.Forall₂ (fun x z => ∃ y, R x y ∧ f y = .ok z) xs zs :=
  related_trans related (mapM_eq_ok.mp done)

/-- What is listed for the items is related to all results together if it is for each item. -/
theorem related_flatten {γ : Type} {R : γ → β → Prop} {f : α → Outcome (List β)} {listed : α → List γ}
    {xs : List α} {each : List (List β)} (done : xs.mapM f = .ok each)
    (related : ∀ x ys, f x = .ok ys → List.Forall₂ R (listed x) ys) :
    List.Forall₂ R (xs.flatMap listed) each.flatten := by
  rw [mapM_eq_ok] at done
  induction done with
  | nil => exact .nil
  | cons head _ ih =>
    rw [List.flatMap_cons, List.flatten_cons]
    exact List.rel_append (related _ _ head) ih

/-- What holds of everything that is given for an item holds of everything that is given for all. -/
theorem forall_mem_flatten {f : α → Outcome (List β)} {P : β → Prop} {xs : List α}
    {each : List (List β)} (held : ∀ x ys, f x = .ok ys → ∀ y ∈ ys, P y)
    (done : xs.mapM f = .ok each) : ∀ y ∈ each.flatten, P y := by
  intro y mem
  obtain ⟨ys, inside, mem⟩ := List.mem_flatten.mp mem
  obtain ⟨x, -, given⟩ := exists_item done inside
  exact held x ys given y mem

/-- The items of a list in another order give the same results, in another order. -/
theorem exists_mapM_of_perm {f : α → Outcome β} {xs others : List α} {ys : List β} (perm : xs.Perm others)
    (done : xs.mapM f = .ok ys) : ∃ results, others.mapM f = .ok results ∧ ys.Perm results := by
  obtain ⟨results, each, same⟩ := List.perm_comp_forall₂ perm.symm (mapM_eq_ok.mp done)
  exact ⟨results, mapM_eq_ok.mpr each, same.symm⟩

/-- What each result keeps of its item, all results keep of all items. -/
theorem map_of_mapM {γ : Type} {f : α → Outcome β} {xs : List α} {ys : List β} (read : α → γ)
    (kept : β → γ) (done : xs.mapM f = .ok ys) (keeps : ∀ x y, f x = .ok y → kept y = read x) :
    ys.map kept = xs.map read := by
  rw [mapM_eq_ok] at done
  induction done with
  | nil => rfl
  | cons head _ ih => rw [List.map_cons, List.map_cons, keeps _ _ head, ih]

/-- What is tested of a result holds of one that there is. -/
theorem exists_of_any {x : Outcome α} {p : α → Bool} (tested : x.toOption.any p = true) :
    ∃ a, x = .ok a ∧ p a = true := by
  cases x with
  | error e => simp [Except.toOption] at tested
  | ok a => exact ⟨a, rfl, by simpa [Except.toOption] using tested⟩

end TypedClient.Outcome
