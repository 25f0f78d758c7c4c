import Mathlib.Data.List.Induction
import TypedClient.Operation.Basic

/-! The places that the parameters of an operation are put in one by one, and the order that they are sorted into. -/

namespace TypedClient

/-- The second list is the first one put in order: those that go first do, and each group keeps its order. -/
structure StablyOrdered {α : Type} (first : α → Bool) (before after : List α) : Prop where
  /-- Nothing is added and nothing dropped. -/
  perm : after.Perm before
  /-- Nothing stands behind what does not go first, unless it does not go first either. -/
  ordered : after.Pairwise fun a b => first b = true → first a = true
  /-- Each group is in the order it was in. -/
  stable : ∀ group, (after.filter fun a => first a == group) = before.filter fun a => first a == group

namespace Parameter

variable {p : Parameter} {parameters : List Parameter}

/-- What is put into a list is added to it. -/
theorem insertSorted_perm (p : Parameter) (parameters : List Parameter) :
    (insertSorted p parameters).Perm (p :: parameters) := by
  induction parameters with
  | nil => exact .refl _
  | cons other rest ih =>
    rw [insertSorted]
    split
    · exact .refl _
    · exact (ih.cons other).trans (.swap p other rest)

/-- What is put into a list stands in front of all others of its group. -/
theorem filter_insertSorted (p : Parameter) (parameters : List Parameter) (group : Bool) :
    (insertSorted p parameters).filter (·.needsValue == group) = (p :: parameters).filter (·.needsValue == group) := by
  induction parameters with
  | nil => rfl
  | cons other rest ih =>
    rw [insertSorted]
    split
    · rfl
    · next passed =>
      -- Only one that does not need a value passes another one, and that one does.
      obtain ⟨late, early⟩ : p.needsValue = false ∧ other.needsValue = true := by simpa using passed
      rw [List.filter_cons, ih]
      cases group <;> simp [late, early]

/-- A list in order stays in order when a parameter is put into it. -/
theorem insertSorted_ordered (ordered : parameters.Pairwise fun a b => b.needsValue = true → a.needsValue = true) :
    (insertSorted p parameters).Pairwise fun a b => b.needsValue = true → a.needsValue = true := by
  induction parameters with
  | nil => exact List.pairwise_singleton _ _
  | cons other rest ih =>
    obtain ⟨head, tail⟩ := List.pairwise_cons.mp ordered
    rw [insertSorted]
    split
    · next goes =>
      refine List.pairwise_cons.mpr ⟨fun q mem needed => ?_, ordered⟩
      -- If any of the others needs a value, the first one of them does.
      have first : other.needsValue = true := by
        rcases List.mem_cons.mp mem with rfl | later
        · exact needed
        · exact head q later needed
      simpa [first] using goes
    · next passed =>
      obtain ⟨-, early⟩ : p.needsValue = false ∧ other.needsValue = true := by simpa using passed
      exact List.pairwise_cons.mpr ⟨fun _ _ _ => early, ih tail⟩

/-- Sorting parameters puts them in order. -/
theorem stablyOrdered_sorted (parameters : List Parameter) :
    StablyOrdered needsValue parameters (sorted parameters) := by
  induction parameters with
  | nil => exact ⟨.refl _, .nil, fun _ => rfl⟩
  | cons p rest ih =>
    refine ⟨(insertSorted_perm p _).trans (ih.perm.cons p), insertSorted_ordered ih.ordered, fun group => ?_⟩
    refine (filter_insertSorted p (sorted rest) group).trans ?_
    rw [List.filter_cons, List.filter_cons, ih.stable]

end Parameter

namespace Operation

/-- The declared parameters are put at their locations, in their order, and the last body counts. -/
theorem foldl_add (declared : List Parameter) :
    declared.foldl (fun places parameter => places.add parameter false) ({} : Places) =
      { all := declared
        path := declared.filter fun p => p.location = .path
        query := declared.filter fun p => p.location = .query
        header := declared.filter fun p => p.location = .header
        cookie := declared.filter fun p => p.location = .cookie
        form := declared.filter fun p => p.location = .formData
        body := (declared.filter fun p => p.location = .body).getLast?
        imports := declared.flatMap (·.schema.imports)
        refs := declared.flatMap (·.schema.refs) } := by
  -- Parameters are added from the first to the last, so the last one is what comes on top.
  induction declared using List.reverseRecOn with
  | nil => rfl
  | append_singleton declared parameter ih =>
    rw [List.foldl_append, ih]
    cases here : parameter.location <;> simp [Places.add, Places.locate, here, List.filter_append]

variable (operation : Operation)

/-- All parameters are the declared ones and the request body, in this order. -/
theorem places_all : operation.places.all = operation.declared ++ operation.requestBody.toList := by
  rw [places, foldl_add]
  cases operation.requestBody <;> simp [Places.add]

/-- A location has what is declared for it, and never the request body. -/
theorem located_eq {location : Location} (other : location ≠ .body) :
    operation.located location = operation.declared.filter fun p => p.location = location := by
  rw [located, places, foldl_add]
  cases operation.requestBody <;> cases location <;> first | rfl | exact absurd rfl other

/-- The request body is the body, or else the last parameter that is declared as one. -/
theorem body_eq : operation.body = operation.requestBody.or
    (operation.declared.filter fun p => p.location = .body).getLast? := by
  rw [body, places, foldl_add]
  cases operation.requestBody <;> rfl

/-- The parameters are all parameters, put in order. -/
theorem stablyOrdered_parameters : StablyOrdered Parameter.needsValue
    (operation.declared ++ operation.requestBody.toList) operation.parameters :=
  places_all operation ▸ Parameter.stablyOrdered_sorted operation.places.all

/-- An operation lists what its types import and refer to: those of the parameters, then those of success responses. -/
theorem lists_eq :
    operation.imports = (operation.declared ++ operation.requestBody.toList).flatMap (·.schema.imports) ++
      operation.results.flatMap (·.schema.imports) ∧
    operation.refs = (operation.declared ++ operation.requestBody.toList).flatMap (·.schema.refs) ++
      operation.results.flatMap (·.schema.refs) := by
  simp only [imports, refs, List.foldl_append_eq_append, ← List.flatMap_def, places, foldl_add]
  cases operation.requestBody <;> simp [Places.add]

end Operation

end TypedClient
