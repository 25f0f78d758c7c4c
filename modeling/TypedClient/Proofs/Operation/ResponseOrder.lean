import Mathlib.Data.List.Nodup
import Mathlib.Order.WithBot
import TypedClient.Operation.Resolve
import TypedClient.Proofs.Operation.Responses
import TypedClient.Proofs.Value.Equality

/-! The order of responses is that of their codes, in whatever order their map lists them. -/

namespace TypedClient

namespace ResponseCode

/-- One code comes before another one: statuses ascend, and the fallback comes behind all of them. -/
inductive Precedes : ResponseCode → ResponseCode → Prop
  | ascending {m n : Nat} (less : m < n) : Precedes (.status m) (.status n)
  | last (n : Nat) : Precedes (.status n) .fallback

/-- A code that a response of a document has: a status, or the fallback. -/
def IsUsable : ResponseCode → Prop
  | fallback | status _ => True
  | unusable _ => False

/-- The place of a code among all codes. -/
def rank : ResponseCode → WithTop Nat
  | status n => WithTop.some n
  | fallback | unusable _ => ⊤

variable {a b : ResponseCode}

/-- Usable codes are told from each other by their places. -/
theorem rank_inj (usable : a.IsUsable) (otherUsable : b.IsUsable) : a.rank = b.rank ↔ a = b := by
  cases a <;> cases b <;> simp_all [IsUsable, rank]

/-- A usable code comes before another one if its place does. -/
theorem Precedes.of_rank_lt (usable : a.IsUsable) (otherUsable : b.IsUsable) (less : a.rank < b.rank) :
    Precedes a b := by
  cases a with
  | status m =>
    cases b with
    | status n => exact .ascending (by simpa [rank] using less)
    | fallback => exact .last m
    | unusable => cases otherUsable
  | fallback => simp [rank] at less
  | unusable => cases usable

/-- No code comes before one that comes before it. -/
theorem Precedes.asymm (before : Precedes a b) : ¬ Precedes b a := by
  cases before with
  | ascending less =>
    rintro (more | _)
    exact absurd less (Nat.lt_asymm more)
  | last => nofun

end ResponseCode

namespace Response

variable {document : Value} {responses : List Response}

/-- Responses with usable codes are compared by the places of these. -/
theorem comesBefore_eq {a b : Response} (usable : a.code.IsUsable) (otherUsable : b.code.IsUsable) :
    comesBefore a b = decide (a.code.rank ≤ b.code.rank) := by
  rw [comesBefore]
  cases first : a.code <;> cases second : b.code <;>
    simp_all [ResponseCode.IsUsable, ResponseCode.rank]

/-- Sorting puts responses with usable codes into the order of their places. -/
theorem pairwise_mergeSort (usable : ∀ r ∈ responses, r.code.IsUsable) :
    (responses.mergeSort comesBefore).Pairwise fun a b => a.code.rank ≤ b.code.rank := by
  -- The comparison is no order on all responses, so it is replaced by one that does the same here.
  let ordered (a b : Response) : Bool := decide (a.code.rank ≤ b.code.rank)
  have same : responses.mergeSort comesBefore = responses.mergeSort ordered := by
    simpa using List.map_mergeSort (f := id) fun a mem b memToo => comesBefore_eq (usable a mem) (usable b memToo)
  rw [same]
  have sorted : (responses.mergeSort ordered).Pairwise fun a b => ordered a b = true := by
    refine List.pairwise_mergeSort (fun a b c => ?_) (fun a b => ?_) responses
    · simpa [ordered] using le_trans
    · simpa [ordered] using le_total _ _
  exact sorted.imp of_decide_eq_true

/-- The codes that the keys of a map are for, those that are for none left out. -/
def codes (entries : Members) : List ResponseCode :=
  entries.filterMap fun entry => (codeOf? (.scalar entry.1)).toOption.join

/-- A key is for a usable code if it is for any. -/
theorem isUsable_of_codeOf? {key : Value} {code : ResponseCode} (found : codeOf? key = .ok (some code)) :
    code.IsUsable := by
  rw [codeOf?] at found
  split at found
  · cases found
    trivial
  · generalize leadingDigits key.display.toList = digits at found
    cases digits with
    | nil => cases found
    | cons first rest =>
      -- The digits may still be too many to be read.
      cases read : Text.decimalNumber? (first :: rest) with
      | none => simp [read, misfit] at found
      | some n =>
        simp only [read, Option.elim_some] at found
        cases found
        trivial

/-- A response has the code that it is resolved for. -/
theorem code_of_ofMembers {members : Members} {code : ResponseCode} {r : Response}
    (made : ofMembers document members code = .ok r) : r.code = code := by
  simp only [ofMembers, Outcome.bind_eq_ok] at made
  obtain ⟨schema, -, made⟩ := made
  cases schema with
  | some schema =>
    simp only [Outcome.bind_eq_ok, Outcome.pure_eq_ok] at made
    obtain ⟨target, -, model, -, rfl⟩ := made
    rfl
  | none =>
    simp only [Outcome.bind_eq_ok] at made
    obtain ⟨headers, -, made⟩ := made
    cases headers <;> cases made <;> rfl

/-- What an entry of a map stands for has the code that its key is for. -/
theorem code_of_ofEntry {key : Scalar} {entry : Value} {found : Option Response}
    (made : ofEntry document key entry = .ok found) :
    (codeOf? (.scalar key)).toOption.join = found.map Response.code ∧ ∀ r ∈ found, r.code.IsUsable := by
  obtain ⟨code, told, made⟩ := Outcome.bind_eq_ok.mp made
  cases code with
  | none =>
    cases made
    exact ⟨by rw [told]; rfl, by simp⟩
  | some code =>
    simp only [Outcome.bind_eq_ok, Outcome.pure_eq_ok] at made
    obtain ⟨target, -, members, -, r, resolved, rfl⟩ := made
    have same := code_of_ofMembers resolved
    exact ⟨by rw [told, Option.map_some, same]; rfl, by simpa [same] using isUsable_of_codeOf? told⟩

/-- The responses of a map have the codes that its keys are for, before they are put in order. -/
theorem map_code_eq {entries : Members} {resolved : List (Option Response)}
    (made : (entries.mapM fun entry => ofEntry document entry.1 entry.2) = .ok resolved) :
    (resolved.filterMap id).map Response.code = codes entries := by
  rw [Outcome.mapM_eq_ok] at made
  induction made with
  | nil => rfl
  | @cons entry found _ _ head _ ih =>
    have code := (code_of_ofEntry head).1
    cases found <;> simp_all [codes]

/-- There is one response for each code that a key of the map is for. -/
theorem perm_codes {entries : Members} (resolved : ofMap document (.map entries) = .ok responses) :
    (responses.map Response.code).Perm (codes entries) := by
  obtain ⟨made, done, rfl⟩ := ofMap_eq_ok.mp resolved
  rw [← map_code_eq done]
  exact (List.mergeSort_perm _ comesBefore).map Response.code

/-- Where no two keys are for one code, the responses come in the order of their codes. -/
theorem pairwise_precedes {entries : Members} (apart : (codes entries).Nodup)
    (resolved : ofMap document (.map entries) = .ok responses) :
    responses.Pairwise fun a b => a.code.Precedes b.code := by
  -- Sorting leaves the codes different from each other, so none comes beside another one.
  have distinct := (perm_codes resolved).nodup_iff.mpr apart
  obtain ⟨made, done, rfl⟩ := ofMap_eq_ok.mp resolved
  have usable : ∀ r ∈ made.filterMap id, r.code.IsUsable := by
    intro r mem
    obtain ⟨found, inside, rfl⟩ := List.mem_filterMap.mp mem
    obtain ⟨entry, -, told⟩ := Outcome.exists_item done inside
    exact (code_of_ofEntry told).2 r rfl
  have perm := List.mergeSort_perm (made.filterMap id) comesBefore
  refine ((pairwise_mergeSort usable).and (List.pairwise_map.mp distinct)).imp_of_mem ?_
  intro a b mem memToo ⟨ordered, differ⟩
  have first := usable a (perm.mem_iff.mp mem)
  have second := usable b (perm.mem_iff.mp memToo)
  refine .of_rank_lt first second (lt_of_le_of_ne ordered fun same => differ ?_)
  exact (ResponseCode.rank_inj first second).mp same

/-- The responses of a map whose keys are for different codes are the same in any order of its entries. -/
theorem ofMap_of_perm {entries others : Members} (apart : (codes entries).Nodup) (perm : entries.Perm others)
    (resolved : ofMap document (.map entries) = .ok responses) : ofMap document (.map others) = .ok responses := by
  obtain ⟨made, done, rfl⟩ := ofMap_eq_ok.mp resolved
  obtain ⟨results, others_done, same⟩ := Outcome.exists_mapM_of_perm perm done
  have otherResolved := ofMap_eq_ok.mpr ⟨results, others_done, rfl⟩
  have otherApart : (codes others).Nodup := (perm.filterMap _).nodup_iff.mp apart
  rw [otherResolved]
  -- Both lists hold the same responses, and there is only one order for them.
  have sorted := ((List.mergeSort_perm _ comesBefore).trans (same.filterMap id)).trans
    (List.mergeSort_perm _ comesBefore).symm
  refine congrArg Except.ok (sorted.eq_of_pairwise ?_ (pairwise_precedes apart resolved)
    (pairwise_precedes otherApart otherResolved)).symm
  exact fun a b _ _ before behind => absurd behind before.asymm

/-- A response that reports an error has a status from 300 on. -/
theorem exists_status_of_mem_errors {r : Response} (mem : r ∈ errors responses) :
    ∃ status, r.code = .status status ∧ 300 ≤ status := by
  have reports := (List.mem_filter.mp mem).2
  rw [isError] at reports
  split at reports
  · next status found => exact ⟨status, found, of_decide_eq_true (Bool.and_eq_true_iff.mp reports).1⟩
  · cases reports

/-- A response of success that is kept has no status from 300 on. -/
theorem status_lt_of_mem_results {r : Response} (mem : r ∈ results responses) {status : Nat}
    (found : r.code = .status status) : status < 300 := by
  have success := (List.mem_filter.mp ((keepsFirst_results responses).sublist.subset mem)).2
  rw [isSuccess, found] at success
  exact of_decide_eq_true (Bool.and_eq_true_iff.mp success).2

end Response

namespace Operation

variable {document : Value} {members other entries others : Members} {responses : List Response}

/-- An operation goes on with the responses of its map, also where the map is empty and not looked into. -/
theorem responses_bind {α : Type} (given : members.get? "responses" = some (.map entries))
    (resolved : Response.ofMap document (.map entries) = .ok responses) (next : List Response → Outcome α) :
    (if (members.get "responses").truthy then Response.ofMap document (members.get "responses") >>= next
      else pure [] >>= next) = next responses := by
  rw [Members.get, given, Option.getD_some]
  split
  · rw [resolved]
    rfl
  · next falsy =>
    -- An empty map counts as absent, and has no responses either.
    obtain rfl : entries = [] := by simpa [Value.truthy] using falsy
    obtain rfl : [] = responses := by simpa [Response.ofMap, Value.members] using resolved
    rfl

/-- Two definitions are resolved to the same operation if they only differ in their responses, and these are
resolved to the same list. -/
theorem resolve_eq (agree : members.AgreeBeside "responses" other)
    (given : members.get? "responses" = some (.map entries)) (givenOther : other.get? "responses" = some (.map others))
    (resolved : Response.ofMap document (.map entries) = .ok responses)
    (resolvedOther : Response.ofMap document (.map others) = .ok responses)
    (url : Value) (method : String) (tag : Value) (ofPath : List Parameter) (config : Config) :
    resolve document url method tag (.map other) ofPath config
      = resolve document url method tag (.map members) ofPath config := by
  have read (key : String) (apart : key ≠ "responses") : other.get key = members.get key :=
    (agree.get_eq key apart).symm
  -- Every step reads other keys of the definition, apart from the one for the responses.
  have mediaType : withMediaType document other = withMediaType document members := by
    funext parameter
    simp only [withMediaType, consumed, read "consumes" (by decide)]
  have body : bodyOf? document other = bodyOf? document members := by
    simp only [bodyOf?, agree "requestBody" (by decide)]
  have bound (own : Members) (next : Members → Outcome Operation) : (Value.map own).members >>= next = next own := rfl
  simp only [resolve, bound, responses_bind given resolved, responses_bind givenOther resolvedOther, mediaType, body,
    read "operationId" (by decide), read "parameters" (by decide), read "summary" (by decide),
    read "description" (by decide), read "deprecated" (by decide)]

/-- A resolved operation has the responses of its map. -/
theorem responses_of_resolve {url tag : Value} {method : String} {ofPath : List Parameter} {config : Config}
    {operation : Operation} (given : members.get? "responses" = some (.map entries))
    (made : Response.ofMap document (.map entries) = .ok responses)
    (resolved : resolve document url method tag (.map members) ofPath config = .ok operation) :
    operation.responses = responses := by
  obtain ⟨_, same, resolved⟩ := Outcome.bind_eq_ok.mp resolved
  cases same
  simp only [responses_bind given made, Outcome.bind_eq_ok, Outcome.pure_eq_ok] at resolved
  obtain ⟨_, -, _, -, _, -, _, -, _, -, rfl⟩ := resolved
  rfl

end Operation

namespace Response

variable {document : Value} {entries others : Members} {responses : List Response}

/--
Responses do not depend on the order in which their map lists them.

Wherever no two keys are for one code, there is one for each code, and they ascend by their statuses with the
fallback behind all of them.
An operation with the map in another order is therefore the same one.
What it keeps as errors has statuses from 300 on, and what it keeps as results has none of these.
-/
theorem same_of_perm (apart : (codes entries).Nodup) (perm : entries.Perm others)
    (resolved : ofMap document (.map entries) = .ok responses) :
    ofMap document (.map others) = .ok responses ∧
      (responses.map Response.code).Perm (codes entries) ∧ responses.Pairwise (fun a b => a.code.Precedes b.code) ∧
      (∀ members other : Members, members.AgreeBeside "responses" other →
        members.get? "responses" = some (.map entries) → other.get? "responses" = some (.map others) →
        ∀ url method tag ofPath config,
          let operation := Operation.resolve document url method tag (.map members) ofPath config
          Operation.resolve document url method tag (.map other) ofPath config = operation ∧
            ∀ made, operation = .ok made → made.responses = responses) ∧
      (∀ r ∈ errors responses, ∃ status, r.code = .status status ∧ 300 ≤ status) ∧
      ∀ r ∈ results responses, ∀ status, r.code = .status status → status < 300 := by
  have resolvedOther := ofMap_of_perm apart perm resolved
  refine ⟨resolvedOther, perm_codes resolved, pairwise_precedes apart resolved, ?_, ?_, ?_⟩
  · intro members other agree given givenOther url method tag ofPath config
    exact ⟨Operation.resolve_eq agree given givenOther resolved resolvedOther url method tag ofPath config,
      fun made => Operation.responses_of_resolve given resolved⟩
  · exact fun r mem => exists_status_of_mem_errors mem
  · exact fun r mem status => status_lt_of_mem_results mem

/-- Two headers of one type, of which the one with the lower status is kept, listed first and listed last. -/
theorem same_of_perm_headers :
    let delivering (name : String) : Value := .map [(.text "headers", .map [(.text name, .map [])])]
    let entries : Members := [
      (.text "200", delivering "X-Early"), (.text "206", delivering "X-Late"), (.text "x-note", .text "none"),
      (.text "404", .map [(.text "description", "No such item.")]), (.text "default", .map [])]
    let definition (entries : Members) : Members := [(.text "summary", "Reads."), (.text "responses", .map entries)]
    ∃ responses, ofMap (.map []) (.map entries) = .ok responses ∧
      ofMap (.map []) (.map entries.reverse) = .ok responses ∧
      responses.map (fun r => r.code.text) = ["200", "206", "404", "default"] ∧
      header (results responses) = .text "X-Early" ∧
      Operation.resolve (.map []) "/items" "get" "items" (.map (definition entries.reverse)) [] {}
        = Operation.resolve (.map []) "/items" "get" "items" (.map (definition entries)) [] {} := by
  intro delivering entries definition
  have apart : (codes entries).Nodup := .of_map ResponseCode.text (by decide +kernel)
  -- The entries are in order already, so the first list needs no sorting.
  obtain ⟨made, done, seen⟩ := Outcome.exists_of_any
    (x := entries.mapM fun entry => ofEntry (.map []) entry.1 entry.2)
    (p := fun made =>
      let responses := made.filterMap id
      decide (responses.Pairwise (comesBefore · ·)) && header (results responses) == .text "X-Early" &&
        responses.map (fun r => r.code.text) == ["200", "206", "404", "default"])
    (by decide +kernel)
  simp only [Bool.and_eq_true, decide_eq_true_eq, beq_iff_eq, Value.beq_text] at seen
  obtain ⟨⟨sorted, delivered⟩, codes⟩ := seen
  have resolved := ofMap_eq_ok.mpr ⟨made, done, List.mergeSort_of_pairwise sorted⟩
  obtain ⟨other, -, -, whole, -⟩ := same_of_perm apart entries.reverse_perm.symm resolved
  have agree : (definition entries).AgreeBeside "responses" (definition entries.reverse) :=
    Members.agreeBeside_append [(.text "summary", "Reads.")] []
  exact ⟨_, resolved, other, codes, delivered, (whole _ _ agree rfl rfl "/items" "get" "items" [] {}).1⟩

end Response

end TypedClient
