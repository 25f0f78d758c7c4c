import TypedClient.Operation.Resolve
import TypedClient.Proofs.Operation.Places
import TypedClient.Proofs.Outcome
import TypedClient.Proofs.Value.Equality

/-! Where the parameters of an operation go: none is lost, doubled or put in the wrong place. -/

namespace TypedClient

/-- Items that each belong to one of several kinds can be put together again from the kinds. -/
theorem flatMap_filter_perm {α κ : Type} [DecidableEq κ] (kind : α → κ) {kinds : List κ}
    (nodup : kinds.Nodup) {items : List α} (known : ∀ a ∈ items, kind a ∈ kinds) :
    (kinds.flatMap fun k => items.filter fun a => kind a = k).Perm items := by
  -- The first kind is taken out, and what is left has only the other kinds.
  induction kinds generalizing items with
  | nil =>
    have empty : items = [] := List.eq_nil_iff_forall_not_mem.mpr fun a mem => by
      simpa using known a mem
    rw [empty]
    rfl
  | cons k rest ih =>
    obtain ⟨fresh, nodup⟩ := List.nodup_cons.mp nodup
    have others : ∀ a ∈ items.filter fun a => !decide (kind a = k), kind a ∈ rest := by
      intro a mem
      obtain ⟨mem, other⟩ := List.mem_filter.mp mem
      exact (List.mem_cons.mp (known a mem)).resolve_left (by simpa using other)
    -- Taking out one kind leaves all others as they were.
    have same : ∀ l ∈ rest, (items.filter fun a => decide (kind a = l))
        = (items.filter fun a => !decide (kind a = k)).filter fun a => decide (kind a = l) := by
      intro l mem
      rw [List.filter_filter]
      refine List.filter_congr fun a _ => ?_
      by_cases here : kind a = l
      · have different : kind a ≠ k := by
          rintro rfl
          exact fresh (here ▸ mem)
        simp [here ▸ different, here]
      · simp [here]
    rw [List.flatMap_cons, List.flatMap_congr same]
    exact ((ih nodup others).append_left _).trans (List.filter_append_perm _ items)

namespace Parameter

/-- The parameter, with the media type that its operation takes if it is a body. -/
def taking (mediaType : Value) (parameter : Parameter) : Parameter :=
  if parameter.location = .body then { parameter with mediaType } else parameter

/-- A parameter goes where it went before it got its media type. -/
@[simp] theorem location_taking (mediaType : Value) (parameter : Parameter) :
    (parameter.taking mediaType).location = parameter.location := by
  -- Only the media type is replaced.
  unfold taking
  split <;> rfl

/-- Whether one of the given parameters has the same name on the wire and the same location. -/
def Overridden (own : List Parameter) (parameter : Parameter) : Prop :=
  ∃ other ∈ own, other.prop = parameter.prop ∧ other.location = parameter.location

/-- A resolved parameter has a text for its name on the wire. -/
theorem prop_of_ofMembers {document : Value} {members : Members} {location : Location}
    {parameter : Parameter} (made : ofMembers document members location = .ok parameter) :
    ∃ wire, parameter.prop = .text wire := by
  simp only [ofMembers, parameterName, Outcome.bind_eq_ok, Outcome.pure_eq_ok] at made
  obtain ⟨_, ⟨wire, editable, -⟩, _, -, rfl⟩ := made
  refine ⟨wire, ?_⟩
  -- Whatever is no text is refused where the name is computed from it.
  unfold Value.asEditable Value.asText at editable
  split at editable
  · cases editable
  · split at editable
    · cases editable
      assumption
    · cases editable
    · cases editable

/-- Every parameter of a resolved list is made of the members of an entry. -/
theorem exists_ofMembers {document list : Value} {parameters : List Parameter}
    (made : ofList document list = .ok parameters) {parameter : Parameter}
    (mem : parameter ∈ parameters) :
    ∃ members location, ofMembers document members location = .ok parameter := by
  simp only [ofList, Outcome.bind_eq_ok, Outcome.pure_eq_ok] at made
  obtain ⟨entries, -, resolved, done, rfl⟩ := made
  obtain ⟨_, listed, rfl⟩ := List.mem_filterMap.mp mem
  obtain ⟨entry, -, made⟩ := Outcome.exists_item done listed
  -- An entry that gives a parameter has gone through the reading of its members.
  simp only [ofEntry, Outcome.bind_eq_ok] at made
  obtain ⟨_, -, members, -, made⟩ := made
  split at made
  · cases made
  · split at made
    · simp only [Outcome.bind_eq_ok, Outcome.pure_eq_ok] at made
      obtain ⟨_, made, same⟩ := made
      cases same
      exact ⟨members, _, made⟩
    · cases made

/-- Every parameter of a resolved list has a text for its name on the wire. -/
theorem prop_of_ofList {document list : Value} {parameters : List Parameter}
    (made : ofList document list = .ok parameters) {parameter : Parameter}
    (mem : parameter ∈ parameters) : ∃ wire, parameter.prop = .text wire := by
  obtain ⟨members, location, made⟩ := exists_ofMembers made mem
  exact prop_of_ofMembers made

/-- What the own parameters leave of the path stays as it is. -/
theorem merge_eq_filter (ofPath own : List Parameter) :
    merge ofPath own = (ofPath.filter fun p => !own.any fun q => sameWire p q) ++ own := by
  simp [merge]

open Classical in
/-- A list of the path keeps the parameters that no own one overrides, and the own ones follow. -/
theorem merge_eq {own : List Parameter} (texts : ∀ q ∈ own, ∃ wire, q.prop = .text wire)
    (ofPath : List Parameter) :
    merge ofPath own = (ofPath.filter fun p => ¬ p.Overridden own) ++ own := by
  rw [merge_eq_filter]
  congr 1
  refine List.filter_congr fun p _ => ?_
  -- Names on the wire are compared as values, which is equality for texts.
  have same : ∀ q ∈ own, (sameWire p q = true ↔ q.prop = p.prop ∧ q.location = p.location) := by
    intro q mem
    obtain ⟨wire, spelled⟩ := texts q mem
    rw [sameWire, spelled, Bool.and_eq_true, Value.beq_text, beq_iff_eq, eq_comm,
      eq_comm (a := p.location)]
  rw [Bool.eq_iff_iff]
  simp only [Bool.not_eq_true', List.any_eq_false, decide_eq_true_eq, Overridden, not_exists, not_and]
  exact forall₂_congr fun q mem => by rw [same q mem, not_and]

end Parameter

namespace Operation

/-- The media type that an operation takes, null also if the document does not say it properly. -/
def requestMediaType (document : Value) (members : Members) : Value :=
  (consumed document members).toOption.getD .null

variable {document url tag definition : Value} {method : String} {config : Config}
  {ofPath : List Parameter} {operation : Operation}

/-- A body takes the media type of its operation, and nothing else is changed. -/
theorem withMediaType_eq_ok {members : Members} {p q : Parameter}
    (made : withMediaType document members p = .ok q) :
    q = p.taking (requestMediaType document members) ∧
      (p.location = .body →
        consumed document members = .ok (requestMediaType document members)) := by
  -- The media type is only looked up for a body, so nothing is known of it otherwise.
  simp only [withMediaType] at made
  split at made
  · next isBody =>
    simp only [Outcome.bind_eq_ok, Outcome.pure_eq_ok] at made
    obtain ⟨mediaType, taken, rfl⟩ := made
    have same : requestMediaType document members = mediaType := by rw [requestMediaType, taken]; rfl
    rw [Parameter.taking, if_pos isBody, same]
    exact ⟨rfl, fun _ => taken⟩
  · next other =>
    obtain rfl := Outcome.pure_eq_ok.mp made
    rw [Parameter.taking, if_neg other]
    exact ⟨rfl, fun isBody => absurd isBody other⟩

/-- All parameters of a list get what their operation takes, if one of them is a body. -/
theorem mapM_withMediaType {members : Members} {parameters declared : List Parameter}
    (made : parameters.mapM (withMediaType document members) = .ok declared) :
    declared = parameters.map (Parameter.taking (requestMediaType document members)) ∧
      ((∃ p ∈ parameters, p.location = .body) →
        consumed document members = .ok (requestMediaType document members)) := by
  rw [Outcome.mapM_eq_ok] at made
  -- One body is enough for the media type to have been looked up, wherever it stands in the list.
  induction made with
  | nil => simp
  | @cons p q rest _ head _ ih =>
    obtain ⟨same, taken⟩ := withMediaType_eq_ok head
    obtain ⟨sameRest, takenRest⟩ := ih
    refine ⟨by rw [List.map_cons, ← same, ← sameRest], ?_⟩
    rintro ⟨body, mem, isBody⟩
    rcases List.mem_cons.mp mem with rfl | later
    · exact taken isBody
    · exact takenRest ⟨body, later, isBody⟩

/-- The parameters that are bodies: those declared as one, and the body of the request. -/
def bodies (declared : List Parameter) (requestBody : Option Parameter) : List Parameter :=
  (declared.filter fun p => p.location = .body) ++ requestBody.toList

/-- Each of the declared parameters and the request body is at its one place in the operation. -/
structure Distributes (operation : Operation) (declared : List Parameter)
    (requestBody : Option Parameter) : Prop where
  /-- The parameters that need a value come first. -/
  ordered : StablyOrdered Parameter.needsValue (declared ++ requestBody.toList) operation.parameters
  /-- A location has what is declared for it, and never the request body. -/
  located : ∀ location, location ≠ .body →
    operation.located location = declared.filter fun p => p.location = location
  /-- The locations and the bodies have all parameters between them, and each just once. -/
  complete : operation.parameters.Perm
    (operation.located .path ++ operation.located .query ++ operation.located .header
      ++ operation.located .cookie ++ operation.located .formData ++ bodies declared requestBody)
  /-- The last body is the one that is sent. -/
  body : operation.body = (bodies declared requestBody).getLast?

/-- The locations and the declared bodies hold all declared parameters between them. -/
theorem located_perm (operation : Operation) :
    (operation.located .path ++ operation.located .query ++ operation.located .header
      ++ operation.located .cookie ++ operation.located .formData
      ++ operation.declared.filter fun p => p.location = .body).Perm operation.declared := by
  -- There are no locations but those that have a name.
  have known : ∀ p ∈ operation.declared, p.location ∈ Location.names.map Prod.snd := by
    intro p _
    cases p.location <;> decide
  have together := flatMap_filter_perm Parameter.location (by decide) known
  simpa [Location.names, located_eq] using together

/-- Every operation distributes what it holds. -/
theorem distributes (operation : Operation) :
    operation.Distributes operation.declared operation.requestBody := by
  have ordered := operation.stablyOrdered_parameters
  refine ⟨ordered, fun _ => operation.located_eq, ordered.perm.trans ?_, ?_⟩
  · rw [bodies, ← List.append_assoc]
    exact (located_perm operation).symm.append_right _
  · -- The request body stands behind all declared ones.
    rw [body_eq, bodies]
    cases operation.requestBody <;> simp

/-- The declared parameters of a resolved operation are the merged ones, and it has its own body. -/
theorem declared_of_resolve
    (resolved : resolve document url method tag definition ofPath config = .ok operation) :
    ∃ (members : Members) (own : List Parameter),
      definition = .map members ∧
      Parameter.ofList document ((members.get "parameters").orElse (.list [])) = .ok own ∧
      (Parameter.merge ofPath own).mapM (withMediaType document members) = .ok operation.declared ∧
      bodyOf? document members = .ok operation.requestBody := by
  simp only [resolve, Outcome.bind_eq_ok] at resolved
  obtain ⟨members, isMap, _, -, _, -, own, ownMade, declared, made, requestBody, bodyMade, built⟩ :=
    resolved
  -- Only a map has members.
  have definition_eq : definition = .map members := by
    cases definition <;> cases isMap
    rfl
  refine ⟨members, own, definition_eq, ownMade, ?_⟩
  -- The parameters are the same whether there are responses or not.
  split at built <;> simp only [Outcome.bind_eq_ok, Outcome.pure_eq_ok] at built <;>
    obtain ⟨_, -, rfl⟩ := built <;> exact ⟨made, bodyMade⟩

open Classical in
/-- No parameter of a resolved operation is lost, doubled or put in the wrong place. -/
theorem distributes_of_resolve
    (resolved : resolve document url method tag definition ofPath config = .ok operation) :
    ∃ (members : Members) (own : List Parameter) (requestBody : Option Parameter),
      definition = .map members ∧
      Parameter.ofList document ((members.get "parameters").orElse (.list [])) = .ok own ∧
      bodyOf? document members = .ok requestBody ∧
      let merged := (ofPath.filter fun p => ¬ p.Overridden own) ++ own
      let mediaType := requestMediaType document members
      ((∃ p ∈ merged, p.location = .body) → consumed document members = .ok mediaType) ∧
        operation.Distributes (merged.map (Parameter.taking mediaType)) requestBody := by
  obtain ⟨members, own, isMap, ownMade, made, bodyMade⟩ := declared_of_resolve resolved
  -- The own parameters were resolved, so their names on the wire are texts.
  rw [Parameter.merge_eq fun q mem => Parameter.prop_of_ofList ownMade mem] at made
  obtain ⟨same, taken⟩ := mapM_withMediaType made
  exact ⟨members, own, operation.requestBody, isMap, ownMade, bodyMade, taken, same ▸ distributes operation⟩

/-- A parameter of the path that is overridden, one that stays, a body, a form field and a request body. -/
theorem distributes_of_resolve_overridden :
    let ofPath : List Parameter := [
      { name := "id", prop := "id", location := .path, isRequired := true },
      { name := "page", prop := "page", location := .query, default := .int 1 }]
    let definition : Value := .map [
      (.text "parameters", .list [
        .map [(.text "name", "page"), (.text "in", "query"), (.text "required", .bool true)],
        .map [(.text "name", "file"), (.text "in", "formData")],
        .map [(.text "name", "user"), (.text "in", "body")]]),
      (.text "consumes", .list ["application/json"]),
      (.text "requestBody", .map [(.text "required", .bool true)])]
    ∃ operation, resolve (.map []) "/users" "post" "users" definition ofPath {} = .ok operation ∧
      operation.parameters.map (·.prop) = ["id", "page", "requestBody", "file", "user"] ∧
      ∃ declared requestBody, operation.Distributes declared requestBody := by
  intro ofPath definition
  obtain ⟨operation, resolved, order⟩ : ∃ operation,
      resolve (.map []) "/users" "post" "users" definition ofPath {} = .ok operation ∧
        operation.parameters.map (·.prop) = ["id", "page", "requestBody", "file", "user"] :=
    ⟨_, rfl, rfl⟩
  obtain ⟨_, _, requestBody, -, -, -, -, placed⟩ := distributes_of_resolve resolved
  exact ⟨operation, resolved, order, _, requestBody, placed⟩

end Operation

end TypedClient
