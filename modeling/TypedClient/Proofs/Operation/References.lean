import TypedClient.Operation.Parameters
import TypedClient.Proofs.Outcome

/-! Parameters that a list refers to instead of holding them: only the first reference on the way is followed. -/

namespace TypedClient.Parameter

/-- From a reference one comes to an object of the document, in one step or by way of other references,
which say no location of their own. -/
inductive Reaches (document object : Value) : Nat → Value → Prop
  | direct {members : Members} {ref : String} (refers : members.get? "$ref" = some (.text ref))
      (held : Document.resolveRef document ref = .ok object) : Reaches document object 1 (.map members)
  | through {members next : Members} {ref : String} {steps : Nat}
      (refers : members.get? "$ref" = some (.text ref))
      (held : Document.resolveRef document ref = .ok (.map next))
      (unplaced : Location.ofValue? (next.get "in") = none)
      (further : Reaches document object steps (.map next)) : Reaches document object (steps + 1) (.map members)

variable {document object entry reference : Value} {members : Members} {before after : List Value}
  {steps : Nat} {ref : String} {resolved : List Parameter}

/-- No object is its own reference. -/
theorem Reaches.pos (reaches : Reaches document object steps reference) : 0 < steps := by
  cases reaches with
  | direct => exact Nat.one_pos
  | through => exact Nat.succ_pos _

/-- A reference is followed one step, whatever is found there. -/
theorem dereference_of_refers (refers : members.get? "$ref" = some (.text ref)) :
    Document.dereference document (.map members) = Document.resolveRef document ref := by
  simp only [Document.dereference, refers, Value.asText]
  rfl

/-- An entry that refers to an inline object stands for what the object stands for. -/
theorem ofEntry_of_direct {entry : Members} (inline : members.get? "$ref" = none)
    (refers : entry.get? "$ref" = some (.text ref))
    (held : Document.resolveRef document ref = .ok (.map members)) :
    ofEntry document (.map entry) = ofEntry document (.map members) := by
  have itself : Document.dereference document (.map members) = .ok (.map members) := by
    simp only [Document.dereference, inline]
  rw [ofEntry, ofEntry, dereference_of_refers refers, held, itself]

/-- An entry that refers to what says no location is left out, even if that is a reference itself. -/
theorem ofEntry_of_unplaced {next : Members} (refers : members.get? "$ref" = some (.text ref))
    (held : Document.resolveRef document ref = .ok (.map next))
    (unplaced : Location.ofValue? (next.get "in") = none) : ofEntry document (.map members) = .ok none := by
  rw [ofEntry, dereference_of_refers refers, held]
  -- Whatever its name is, it is left out for this reason or for that.
  simp only [Value.members, unplaced, Outcome.bind_eq_ok, Except.ok.injEq, exists_eq_left']
  split <;> rfl

/-- A list is resolved entry by entry, and an entry that is left out leaves nothing behind. -/
theorem ofList_eq_ok : ofList document (.list (before ++ entry :: after)) = .ok resolved ↔
    ∃ first, before.mapM (ofEntry document) = .ok first ∧
    ∃ middle, ofEntry document entry = .ok middle ∧
    ∃ last, after.mapM (ofEntry document) = .ok last ∧
      first.filterMap id ++ (middle.toList ++ last.filterMap id) = resolved := by
  have kept (middle : Option Parameter) (last : List (Option Parameter)) :
      (middle :: last).filterMap id = middle.toList ++ last.filterMap id := by
    cases middle <;> rfl
  simp only [ofList, Value.elements, List.mapM_append, List.mapM_cons, Outcome.bind_eq_ok,
    Outcome.pure_eq_ok, Except.ok.injEq, exists_eq_left']
  constructor
  · rintro ⟨all, ⟨first, ahead, rest, ⟨middle, taken, last, behind, rfl⟩, rfl⟩, rfl⟩
    exact ⟨first, ahead, middle, taken, last, behind, by rw [List.filterMap_append, kept]⟩
  · rintro ⟨first, ahead, middle, taken, last, behind, rfl⟩
    exact ⟨_, ⟨first, ahead, _, ⟨middle, taken, last, behind, rfl⟩, rfl⟩, by rw [List.filterMap_append, kept]⟩

/-- A reference in place of an inline object leaves the resolved list as it is exactly if it leads there in one
step, or if the object is left out of the list itself. -/
theorem ofList_reference_iff (inline : members.get? "$ref" = none)
    (reaches : Reaches document (.map members) steps reference)
    (resolves : ofList document (.list (before ++ .map members :: after)) = .ok resolved) :
    ofList document (.list (before ++ reference :: after)) = .ok resolved ↔
      steps = 1 ∨ ofEntry document (.map members) = .ok none := by
  obtain ⟨first, ahead, middle, taken, last, behind, whole⟩ := ofList_eq_ok.mp resolves
  cases reaches with
  | direct refers held =>
    -- The entry is resolved to the object itself, so nothing tells the two lists apart.
    have same := ofEntry_of_direct inline refers held
    simp only [true_or, iff_true]
    exact ofList_eq_ok.mpr ⟨first, ahead, middle, same.trans taken, last, behind, whole⟩
  | @through _ _ _ steps refers held unplaced further =>
    -- The entry is lost, which makes no difference only where there was nothing to lose.
    have lost := ofEntry_of_unplaced refers held unplaced
    have several : steps ≠ 0 := Nat.pos_iff_ne_zero.mp further.pos
    simp only [ofList_eq_ok, ahead, behind, lost, taken, Except.ok.injEq, exists_eq_left', ← whole,
      List.append_cancel_left_eq, Option.toList_none, List.nil_append, List.self_eq_append_left]
    cases middle <;> simp [several]

/-- A parameter of a query. -/
def queried : Members :=
  [(.text "name", .text "id"), (.text "in", .text "query"),
    (.text "schema", .map [(.text "type", .text "string")])]

/-- A document with a parameter among its components, and one more component that refers to it. -/
def chained : Value :=
  .map [(.text "components", .map [(.text "parameters", .map [
    (.text "A", .map [(.text "$ref", .text "#/components/parameters/B")]), (.text "B", .map queried)])])]

/-- Two steps lead to the parameter, which makes them one too many. -/
theorem ofList_reference_iff_chained : ∃ resolved, ofList chained (.list [.map queried]) = .ok resolved ∧
    (ofList chained (.list [.map [(.text "$ref", .text "#/components/parameters/A")]]) = .ok resolved ↔
      2 = 1 ∨ ofEntry chained (.map queried) = .ok none) := by
  obtain ⟨resolved, resolves, -⟩ := Outcome.exists_of_any (p := fun _ => true)
    (x := ofList chained (.list [.map queried])) (by decide +kernel)
  exact ⟨resolved, resolves, @ofList_reference_iff _ _ _ [] [] _ _ rfl
    (.through rfl rfl rfl (.direct rfl rfl)) resolves⟩

/-- A reference to a component that refers to a parameter gives another list than the parameter itself. -/
theorem not_ofList_reference_chained : ∃ resolved,
    Reaches chained (.map queried) 2 (.map [(.text "$ref", .text "#/components/parameters/A")]) ∧
    ofList chained (.list [.map queried]) = .ok resolved ∧
    ofList chained (.list [.map [(.text "$ref", .text "#/components/parameters/A")]]) ≠ .ok resolved := by
  obtain ⟨resolved, resolves, some⟩ := Outcome.exists_of_any (p := fun resolved => !resolved.isEmpty)
    (x := ofList chained (.list [.map queried])) (by decide +kernel)
  have none : ofList chained (.list [.map [(.text "$ref", .text "#/components/parameters/A")]]) = .ok [] := rfl
  refine ⟨resolved, .through rfl rfl rfl (.direct rfl rfl), resolves, ?_⟩
  rw [none]
  rintro ⟨⟩
  cases some

end TypedClient.Parameter
