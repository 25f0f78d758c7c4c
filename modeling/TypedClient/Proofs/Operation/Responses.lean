import Mathlib.Data.List.Pairwise
import Mathlib.Data.List.Perm.Subperm
import TypedClient.Declaration.TypeExpr
import TypedClient.Operation.Responses
import TypedClient.Proofs.Distinct
import TypedClient.Proofs.Outcome

/-! The success responses that are kept, and the types that are lost with those left out. -/

namespace TypedClient

namespace Model

/-- What a model links to is a smaller model. -/
theorem sizeOf_link_lt {m link : Model} (found : m.link = some link) : sizeOf link < sizeOf m := by
  -- The link is a field of the model.
  cases m
  cases found
  simp only [mk.sizeOf_spec, Option.some.sizeOf_spec]
  omega

/-- Models are compared by their types, and by what they link to if both link to something. -/
theorem sameType_eq (a b : Model) :
    a.sameType b = (a.type.text == b.type.text && a.type.base == b.type.base
      && a.type.template == b.type.template &&
        match a.link, b.link with
        | some x, some y => x.sameType y
        | _, _ => true) := by
  -- The comparison is defined on the fields of the first model, so it is taken apart.
  obtain ⟨_, _, _, _, _, _, _, _, _, _, _, _, _, _, link, _⟩ := a
  cases link with
  | none => simp [sameType]
  | some x => cases other : b.link <;> simp [sameType, other]

/-- A model has the same type as itself. -/
theorem sameType_refl (m : Model) : m.sameType m = true := by
  -- A model without a link is compared by its type alone, and a link is a smaller model.
  rw [sameType_eq]
  cases found : m.link with
  | none => simp
  | some link => simpa using sameType_refl link
termination_by sizeOf m
decreasing_by exact sizeOf_link_lt found

/-- It makes no difference which of two models is compared with the other. -/
theorem sameType_comm (a b : Model) : a.sameType b = b.sameType a := by
  -- Equality of the types goes both ways, field by field.
  have types : (a.type.text == b.type.text && a.type.base == b.type.base
      && a.type.template == b.type.template) = (b.type.text == a.type.text
      && b.type.base == a.type.base && b.type.template == a.type.template) := by
    simp only [Bool.beq_comm (a := b.type.text), Bool.beq_comm (a := b.type.base),
      Bool.beq_comm (a := b.type.template)]
  rw [sameType_eq a, sameType_eq b, types]
  -- Only two links are compared any further, and they are smaller models.
  cases found : a.link with
  | none => cases b.link <;> rfl
  | some x =>
    cases b.link with
    | none => rfl
    | some y => simp only [sameType_comm x y]
termination_by sizeOf a
decreasing_by exact sizeOf_link_lt found

end Model

namespace Response

variable {document : Value}

/-- Whether every success response has the type of one that is kept. -/
def NoneLost (responses : List Response) : Prop :=
  ∀ r ∈ responses, r.isSuccess → ∃ k ∈ results responses, k.schema.typeExpr = r.schema.typeExpr

/-- The first success response of each type is kept. -/
theorem keepsFirst_results (responses : List Response) :
    KeepsFirst (fun k r => k.schema.sameType r.schema) (responses.filter isSuccess)
      (results responses) :=
  KeepsFirst.foldl fun r _ => r.schema.sameType_refl

/-- No success type is lost where models are only taken for equal that have the same type expression. -/
theorem NoneLost.of_fine {responses : List Response}
    (fine : ∀ a ∈ responses, ∀ b ∈ responses, a.isSuccess → b.isSuccess →
      a.schema.sameType b.schema → a.schema.typeExpr = b.schema.typeExpr) :
    NoneLost responses := by
  intro r mem success
  obtain ⟨sublist, covers, -⟩ := keepsFirst_results responses
  -- Something stands for the response among what is kept, and it is a success response itself.
  obtain ⟨k, kept, equal⟩ := covers r (List.mem_filter.mpr ⟨mem, success⟩)
  obtain ⟨given, keptSuccess⟩ := List.mem_filter.mp (sublist.subset kept)
  exact ⟨k, kept, fine k given r mem keptSuccess success equal⟩

/-- Of two success responses that are taken for equal, only one is kept. -/
theorem NoneLost.typeExpr_eq {a b : Response} {responses : List Response}
    (covered : NoneLost responses) (perm : responses.Perm [a, b]) (success : a.isSuccess)
    (otherSuccess : b.isSuccess) (equal : a.schema.sameType b.schema) :
    a.schema.typeExpr = b.schema.typeExpr := by
  obtain ⟨sublist, -, distinct⟩ := keepsFirst_results responses
  obtain ⟨k, kept, standsForFirst⟩ := covered a (perm.mem_iff.mpr (by simp)) success
  obtain ⟨l, keptToo, standsForSecond⟩ := covered b (perm.mem_iff.mpr (by simp)) otherSuccess
  -- Whatever is kept is one of the two responses.
  have among : ∀ k ∈ results responses, k = a ∨ k = b := by
    intro k kept
    have given := List.mem_of_mem_filter (sublist.subset kept)
    simpa using perm.mem_iff.mp given
  -- Two different ones that are kept would have different types.
  have only : k = l := by
    by_contra different
    have symmetric : Std.Symm fun x y : Response => x.schema.sameType y.schema = false :=
      ⟨fun x y apart => by rw [Model.sameType_comm, apart]⟩
    have apart := distinct.forall kept keptToo different
    rcases among k kept with rfl | rfl <;> rcases among l keptToo with rfl | rfl <;>
      simp_all [Model.sameType_comm]
  -- One response is kept for both, and it has the type of either.
  rw [← standsForFirst, only, standsForSecond]

/-- The responses of a map are what its entries stand for, in another order. -/
theorem ofMap_eq_ok {entries : Members} {responses : List Response} :
    ofMap document (.map entries) = .ok responses ↔ ∃ resolved,
      (entries.mapM fun entry => ofEntry document entry.1 entry.2) = .ok resolved ∧
        (resolved.filterMap id).mergeSort comesBefore = responses := by
  simp [ofMap, Value.members]

/-- Each response of a map stands at one of its entries. -/
theorem exists_entry {entries : Members} {responses : List Response}
    (resolved : ofMap document (.map entries) = .ok responses) {r : Response}
    (mem : r ∈ responses) : ∃ entry ∈ entries, ofEntry document entry.1 entry.2 = .ok (some r) := by
  -- Putting the responses in order and leaving out the other entries adds none.
  obtain ⟨made, done, rfl⟩ := ofMap_eq_ok.mp resolved
  obtain ⟨_, inside, rfl⟩ := List.mem_filterMap.mp (List.mem_mergeSort.mp mem)
  exact Outcome.exists_item done inside

/-- Each entry that stands for a response gives one of the responses of its map. -/
theorem mem_of_ofEntry {entries : Members} {responses : List Response}
    (resolved : ofMap document (.map entries) = .ok responses) {entry : Scalar × Value}
    (mem : entry ∈ entries) {r : Response}
    (made : ofEntry document entry.1 entry.2 = .ok (some r)) : r ∈ responses := by
  -- The entry was gone through like all others, and its result is no other one than the given response.
  obtain ⟨results, done, rfl⟩ := ofMap_eq_ok.mp resolved
  obtain ⟨other, inside, same⟩ := Outcome.exists_result done mem
  obtain rfl : some r = other := Except.ok.inj (made.symm.trans same)
  exact List.mem_mergeSort.mpr (List.mem_filterMap.mpr ⟨_, inside, rfl⟩)

/-- A map of two entries has the responses of both. -/
theorem ofMap_pair {key otherKey : Scalar} {entry other : Value} {a b : Response}
    (firstMade : ofEntry document key entry = .ok (some a))
    (secondMade : ofEntry document otherKey other = .ok (some b)) :
    ∃ responses, ofMap document (.map [(key, entry), (otherKey, other)]) = .ok responses ∧
      responses.Perm [a, b] := by
  -- Which of the two comes first depends on their codes.
  refine ⟨[a, b].mergeSort comesBefore, ofMap_eq_ok.mpr ⟨[some a, some b], ?_, rfl⟩, List.mergeSort_perm _ _⟩
  exact Outcome.mapM_eq_ok.mpr (.cons firstMade (.cons secondMade .nil))

/-- A map of responses and all that is made of its entries lose no success type exactly if no two of
them have different type expressions and are still taken for equal. -/
theorem noneLost_iff {entries : Members} {responses : List Response}
    (resolved : ofMap document (.map entries) = .ok responses) :
    (∀ chosen : Members, chosen.Subperm entries → ∀ part, ofMap document (.map chosen) = .ok part →
        NoneLost part)
      ↔ ∀ a ∈ responses, ∀ b ∈ responses, a.isSuccess → b.isSuccess →
          a.schema.sameType b.schema → a.schema.typeExpr = b.schema.typeExpr := by
  constructor
  · intro covered a mem b memToo success otherSuccess equal
    obtain ⟨first, listed, firstMade⟩ := exists_entry resolved mem
    obtain ⟨second, listedToo, secondMade⟩ := exists_entry resolved memToo
    -- An entry has one response, which has the type of itself.
    by_cases apart : first = second
    · subst apart
      cases firstMade.symm.trans secondMade
      rfl
    · -- The map of just the two entries loses nothing, so it keeps a type for both.
      obtain ⟨part, partMade, perm⟩ := ofMap_pair firstMade secondMade
      have among : [first, second] ⊆ entries := by simp [listed, listedToo]
      have chosen := List.subperm_of_subset (by simpa using apart) among
      exact (covered _ chosen part partMade).typeExpr_eq perm success otherSuccess equal
  · intro fine chosen within part partMade
    -- The responses of the part are responses of the whole map.
    have given : ∀ r ∈ part, r ∈ responses := by
      intro r mem
      obtain ⟨entry, listed, made⟩ := exists_entry partMade mem
      exact mem_of_ofEntry resolved (within.subset listed) made
    exact NoneLost.of_fine fun a mem b memToo => fine a (given a mem) b (given b memToo)

/-- An entry that has nothing but a schema of its own stands for a response with its model. -/
theorem ofEntry_schema {key : Scalar} {code : Nat} {schema : Value} {model : Model}
    (status : codeOf? (.scalar key) = .ok (some (.status code))) (given : schema.truthy = true)
    (own : Content.followInto ["#/components/responses/", "#/responses/"] document schema = .ok schema)
    (made : Schema.resolve (.text "") schema = .ok model) :
    ofEntry document key (.map [(.text "schema", schema)])
      = .ok (some { code := .status code, schema := model }) := by
  -- The schema is found at once, is no reference to look up, and has the given model.
  have described : contentSchema [(.text "schema", schema)] = .ok (some schema) := by
    change (pure (if schema.truthy = true then some schema else none) : Outcome _) = _
    rw [if_pos given]
    rfl
  have resolved : ofMembers document [(.text "schema", schema)] (.status code)
      = .ok { code := .status code, schema := model } := by
    refine Outcome.bind_eq_ok.mpr ⟨_, described, ?_⟩
    refine Outcome.bind_eq_ok.mpr ⟨_, own, ?_⟩
    exact Outcome.bind_eq_ok.mpr ⟨_, made, rfl⟩
  refine Outcome.bind_eq_ok.mpr ⟨_, status, ?_⟩
  exact Outcome.bind_eq_ok.mpr ⟨_, rfl, Outcome.bind_eq_ok.mpr ⟨_, rfl,
    Outcome.bind_eq_ok.mpr ⟨_, resolved, rfl⟩⟩⟩

/-- Two references to different schemas, both of which are kept. -/
theorem noneLost_iff_references :
    let reference (name : String) : Value := .map [(.text "$ref", .text ("#/definitions/" ++ name))]
    let entries : Members := [
      (.text "200", .map [(.text "schema", reference "Item")]),
      (.text "201", .map [(.text "schema", reference "Problem")])]
    ∃ responses, ofMap (.map []) (.map entries) = .ok responses ∧ NoneLost responses := by
  intro reference entries
  let model (name : String) : Model :=
    { variant := .reference, type := { TypeUse.named name with refs := ["#/definitions/" ++ name] } }
  have item : Schema.resolve (.text "") (reference "Item") = .ok (model "Item") := by
    rw [Schema.resolve]
    rfl
  have problem : Schema.resolve (.text "") (reference "Problem") = .ok (model "Problem") := by
    rw [Schema.resolve]
    rfl
  have first : ofEntry (.map []) (.text "200") (.map [(.text "schema", reference "Item")])
      = .ok (some { code := .status 200, schema := model "Item" }) := ofEntry_schema rfl rfl rfl item
  have second : ofEntry (.map []) (.text "201") (.map [(.text "schema", reference "Problem")])
      = .ok (some { code := .status 201, schema := model "Problem" }) := ofEntry_schema rfl rfl rfl problem
  obtain ⟨responses, resolved, perm⟩ := ofMap_pair first second
  refine ⟨responses, resolved, (noneLost_iff resolved).mpr ?_ entries (.refl _) responses resolved⟩
  -- References are compared by their names, so only a response itself is taken for it.
  intro a mem b memToo _ _ equal
  have among := fun r (inside : r ∈ responses) => List.mem_pair.mp (perm.mem_iff.mp inside)
  rcases among a mem with rfl | rfl <;> rcases among b memToo with rfl | rfl
  · rfl
  · cases equal
  · cases equal
  · rfl

/-- A text and a list of texts are taken for equal, and the type of the list is lost. -/
theorem not_noneLost_list :
    let strings : Value := .map [(.text "type", "string")]
    let lists : Value := .map [(.text "type", "array"), (.text "items", strings)]
    let entries : Members :=
      [(.text "200", .map [(.text "schema", strings)]), (.text "201", .map [(.text "schema", lists)])]
    ∃ responses, ofMap (.map []) (.map entries) = .ok responses ∧ ¬ NoneLost responses := by
  intro strings lists entries
  let item : Model := { variant := .generic, type := .plain "string" }
  let items : Model := { variant := .array, type := item.type, link := some item }
  have itemMade : Schema.resolve (.text "") strings = .ok item := by
    rw [Schema.resolve]
    rfl
  have itemsMade : Schema.resolve (.text "") lists = .ok items := by
    rw [Schema.resolve]
    -- The items of a list are resolved first, and the list takes over their type.
    change (do
      let link ← Schema.resolve (.text "") strings
      return { variant := .array, type := link.type, link := some link : Model }) = _
    rw [itemMade]
    rfl
  have first : ofEntry (.map []) (.text "200") (.map [(.text "schema", strings)])
      = .ok (some { code := .status 200, schema := item }) := ofEntry_schema rfl rfl rfl itemMade
  have second : ofEntry (.map []) (.text "201") (.map [(.text "schema", lists)])
      = .ok (some { code := .status 201, schema := items }) := ofEntry_schema rfl rfl rfl itemsMade
  obtain ⟨responses, resolved, perm⟩ := ofMap_pair first second
  -- Both models have the type of the items, and only one of them has a link.
  refine ⟨responses, resolved, fun covered => ?_⟩
  have lost := covered.typeExpr_eq perm rfl rfl rfl
  cases lost

end Response

end TypedClient
