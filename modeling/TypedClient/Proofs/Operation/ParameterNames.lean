import TypedClient.Proofs.Name.Identifier
import TypedClient.Proofs.Operation.Resolve

/-! When the names of the parameters of an operation can be the keys of one object. -/

namespace TypedClient

namespace Parameter

/-- The name on the wire as it is spelled in words, with a pair of brackets read as one. -/
def spelling (parameter : Parameter) : List Char :=
  match parameter.prop with
  | .text wire => Text.replaceAll ['[', ']'] "Array".toList wire.toList
  | _ => []

/-- The words of the name on the wire, in so far as the name in generated code shows them. -/
def wireWords (parameter : Parameter) : List (List Char) :=
  Name.shownWords (Name.hyphenated parameter.spelling)

/-- The name in generated code is the one made from the name on the wire. -/
def IsNamed (parameter : Parameter) : Prop :=
  parameter.name =
    .text (escapeReserved (String.ofList (Name.camel false (Name.hyphenated parameter.spelling))))

variable {document list : Value} {parameters ofPath own : List Parameter} {p q : Parameter}

/-- The name made from a text is that of its spelling. -/
theorem parameterName_text {wire : String} (same : p.prop = .text wire) : parameterName p.prop =
    .ok (escapeReserved (String.ofList (Name.camel false (Name.hyphenated p.spelling)))) := by
  have spelled : camelCase (sanitizeParameterName wire) =
      String.ofList (Name.camel false (Name.hyphenated p.spelling)) := by
    rw [camelCase, sanitizeParameterName, String.toList_ofList, spelling, same]
  rw [← spelled, same]
  rfl

/-- A resolved parameter has the name made from its name on the wire. -/
theorem isNamed_of_ofMembers {members : Members} {location : Location}
    (made : ofMembers document members location = .ok p) : p.IsNamed := by
  obtain ⟨wire, same⟩ := prop_of_ofMembers made
  obtain ⟨name, named, kept⟩ : ∃ name, parameterName p.prop = .ok name ∧ p.name = .text name := by
    simp only [ofMembers, Outcome.bind_eq_ok, Outcome.pure_eq_ok] at made
    obtain ⟨name, named, _, -, rfl⟩ := made
    exact ⟨name, named, rfl⟩
  rw [IsNamed, kept, Except.ok.inj (named.symm.trans (parameterName_text same))]

/-- Every parameter of a resolved list has the name made from its name on the wire. -/
theorem isNamed_of_ofList (made : ofList document list = .ok parameters) :
    ∀ p ∈ parameters, p.IsNamed := by
  intro p mem
  obtain ⟨members, location, made⟩ := exists_ofMembers made mem
  exact isNamed_of_ofMembers made

/-- The media type of a body has no part in its name. -/
theorem IsNamed.taking (named : p.IsNamed) (mediaType : Value) : (p.taking mediaType).IsNamed := by
  unfold Parameter.taking
  split <;> exact named

/-- The name of a request body is the one that the document gives it, as it stands. -/
theorem name_of_ofBody {body : Value} (made : ofBody body = .ok p) : p.name = p.prop := by
  simp only [ofBody, Outcome.bind_eq_ok] at made
  obtain ⟨members, -, chosen, -, made⟩ := made
  -- There is no content, or it is a form, or it is anything else.
  split at made
  · rw [← Outcome.pure_eq_ok.mp made]
  · obtain ⟨model, -, made⟩ := Outcome.bind_eq_ok.mp made
    split at made <;> rw [← Outcome.pure_eq_ok.mp made]

/-- A name that is made from a name on the wire is legal exactly if that has a letter. -/
theorem IsNamed.isLegal_iff (named : p.IsNamed) :
    (∃ name, p.name = .text name ∧ Name.IsLegalName name) ↔ Name.HasLetter p.spelling := by
  rw [IsNamed] at named
  rw [named, ← Name.isIdentifierName_camel_hyphenated, ← Name.isLegalName_escapeReserved_iff]
  simp

/-- Names that are made from names on the wire are the same exactly if these show the same words. -/
theorem IsNamed.name_inj (first : p.IsNamed) (second : q.IsNamed) :
    p.name = q.name ↔ p.wireWords = q.wireWords := by
  have plain (cs : List Char) : '_' ∉ (String.ofList (Name.camel false cs)).toList := by
    rw [String.toList_ofList]
    intro mem
    have joined := Name.isJoined_camel false cs '_' mem
    cases joined
  rw [first, second, wireWords, wireWords, ← Name.camel_inj, Value.scalar.injEq, Scalar.text.injEq,
    Name.escapeReserved_inj (plain _) (plain _), String.ofList_inj]

end Parameter

namespace Operation

/-- The names of the parameters can be the keys of one object, each of which is a name for a variable too. -/
structure HasUsableNames (operation : Operation) : Prop where
  legal : ∀ p ∈ operation.parameters, ∃ name, p.name = .text name ∧ Name.IsLegalName name
  distinct : (operation.parameters.map Parameter.name).Nodup

variable {document url tag definition list : Value} {method : String} {config : Config}
  {ofPath : List Parameter} {operation : Operation}

/-- A declared parameter of a resolved operation has the name made from its name on the wire. -/
theorem isNamed_of_resolve (shared : Parameter.ofList document list = .ok ofPath)
    (resolved : resolve document url method tag definition ofPath config = .ok operation) :
    ∀ p ∈ operation.declared, p.IsNamed := by
  obtain ⟨members, own, -, ownMade, made, -⟩ := declared_of_resolve resolved
  obtain ⟨declared, -⟩ := mapM_withMediaType made
  intro p mem
  rw [declared] at mem
  obtain ⟨q, merged, rfl⟩ := List.mem_map.mp mem
  refine Parameter.IsNamed.taking ?_ _
  rw [Parameter.merge_eq_filter] at merged
  rcases List.mem_append.mp merged with path | operation
  · exact Parameter.isNamed_of_ofList shared q (List.mem_of_mem_filter path)
  · exact Parameter.isNamed_of_ofList ownMade q operation

/-- The request body of a resolved operation is named as the document names it. -/
theorem name_requestBody_of_resolve
    (resolved : resolve document url method tag definition ofPath config = .ok operation) :
    ∀ body ∈ operation.requestBody, body.name = body.prop := by
  obtain ⟨members, -, -, -, -, made⟩ := declared_of_resolve resolved
  intro body mem
  rw [Option.mem_def.mp mem, bodyOf?] at made
  split at made
  · simp only [Outcome.bind_eq_ok, Outcome.pure_eq_ok] at made
    obtain ⟨value, -, _, made, same⟩ := made
    exact Parameter.name_of_ofBody (Option.some.inj same ▸ made)
  · cases made

/-- The names of the parameters of an operation are usable exactly if those of the declared ones are, and that of the
request body is legal and none of them. -/
theorem hasUsableNames_iff_declared (operation : Operation) : operation.HasUsableNames ↔
    (∀ p ∈ operation.declared, ∃ name, p.name = .text name ∧ Name.IsLegalName name) ∧
      (operation.declared.map Parameter.name).Nodup ∧
      ∀ body ∈ operation.requestBody, (∃ name, body.name = .text name ∧ Name.IsLegalName name) ∧
        ∀ p ∈ operation.declared, p.name ≠ body.name := by
  -- Putting the parameters that need a value first only changes their order.
  have listed := (distributes operation).ordered.perm
  have legal : (∀ p ∈ operation.parameters, ∃ name, p.name = .text name ∧ Name.IsLegalName name) ↔
      ∀ p ∈ operation.declared ++ operation.requestBody.toList,
        ∃ name, p.name = .text name ∧ Name.IsLegalName name :=
    forall_congr' fun p => imp_congr_left listed.mem_iff
  have distinct := (listed.map Parameter.name).nodup_iff
  have usable : operation.HasUsableNames ↔ _ ∧ _ :=
    ⟨fun usable => ⟨usable.legal, usable.distinct⟩, fun ⟨legal, distinct⟩ => ⟨legal, distinct⟩⟩
  rw [usable, legal, distinct, List.forall_mem_append, List.map_append, List.nodup_append]
  cases operation.requestBody with
  | none => simp
  | some body =>
    have single : [body.name].Nodup := List.pairwise_singleton _ _
    simp only [Option.toList_some, List.map_singleton, List.mem_singleton, forall_eq, single,
      List.forall_mem_map, Option.mem_some_iff, forall_eq', true_and, and_assoc]
    tauto

/-- The names of the parameters of a resolved operation are usable exactly if there is a letter in the name on the wire
of each declared one, no two of these show the same words, and the name that the request body has been given is legal
and none of theirs. -/
theorem hasUsableNames_iff (shared : Parameter.ofList document list = .ok ofPath)
    (resolved : resolve document url method tag definition ofPath config = .ok operation) :
    operation.HasUsableNames ↔ (∀ p ∈ operation.declared, Name.HasLetter p.spelling) ∧
      (operation.declared.map Parameter.wireWords).Nodup ∧
      ∀ body ∈ operation.requestBody, (∃ name, body.prop = .text name ∧ Name.IsLegalName name) ∧
        ∀ p ∈ operation.declared, p.name ≠ body.prop := by
  have named := isNamed_of_resolve shared resolved
  have legal : (∀ p ∈ operation.declared, ∃ name, p.name = .text name ∧ Name.IsLegalName name) ↔
      ∀ p ∈ operation.declared, Name.HasLetter p.spelling :=
    forall₂_congr fun p mem => (named p mem).isLegal_iff
  have distinct : (operation.declared.map Parameter.name).Nodup ↔
      (operation.declared.map Parameter.wireWords).Nodup := by
    rw [List.Nodup, List.Nodup, List.pairwise_map, List.pairwise_map]
    exact List.Pairwise.iff_of_mem fun first second =>
      not_congr ((named _ first).name_inj (named _ second))
  rw [hasUsableNames_iff_declared, legal, distinct]
  refine and_congr_right fun _ => and_congr_right fun _ => forall₂_congr fun body mem => ?_
  rw [name_requestBody_of_resolve resolved body mem]

/-- A name on the wire with brackets and one that is a reserved word, with a request body beside them. -/
theorem hasUsableNames_reserved :
    let definition : Value := .map [
      (.text "parameters", .list [
        .map [(.text "name", "ids[]"), (.text "in", "query")],
        .map [(.text "name", "delete"), (.text "in", "header")]]),
      (.text "requestBody", .map [(.text "x-body-name", "payload")])]
    let pathItem : Value := .list [.map [(.text "name", "user-id"), (.text "in", "path")]]
    ∃ ofPath operation, Parameter.ofList (.map []) pathItem = .ok ofPath ∧
      resolve (.map []) "/users" "post" "users" definition ofPath {} = .ok operation ∧
      operation.parameters.map Parameter.name = ["userId", "idsArray", "delete_", "payload"] ∧
      operation.HasUsableNames := by
  intro definition pathItem
  obtain ⟨ofPath, shared, operation, resolved, names, ⟨body, passed, prop⟩, declared, letters, words⟩ :
      ∃ ofPath, Parameter.ofList (.map []) pathItem = .ok ofPath ∧ ∃ operation,
      resolve (.map []) "/users" "post" "users" definition ofPath {} = .ok operation ∧
        operation.parameters.map Parameter.name = ["userId", "idsArray", "delete_", "payload"] ∧
        (∃ body, operation.requestBody = some body ∧ body.prop = "payload") ∧
        operation.declared.map Parameter.name = ["userId", "idsArray", "delete_"] ∧
        (∀ p ∈ operation.declared, Name.HasLetter p.spelling) ∧
        (operation.declared.map Parameter.wireWords).Nodup :=
    ⟨_, rfl, _, rfl, rfl, ⟨_, rfl, rfl⟩, rfl, by decide +kernel, by decide +kernel⟩
  refine ⟨ofPath, operation, shared, resolved, names,
    (hasUsableNames_iff shared resolved).mpr ⟨letters, words, fun p mem => ?_⟩⟩
  obtain rfl := Option.some.inj (passed.symm.trans mem)
  refine ⟨⟨"payload", prop, by decide, by decide⟩, fun q inside same => ?_⟩
  have listed := List.mem_map_of_mem (f := Parameter.name) inside
  rw [declared, same, prop] at listed
  simp at listed

/-- A parameter of the path and one of the query with the same name on the wire have the same name in generated
code. -/
theorem not_hasUsableNames_same :
    let parameter (location : String) : Value := .map [(.text "name", "id"), (.text "in", .text location)]
    let definition : Value := .map [(.text "parameters", .list [parameter "path", parameter "query"])]
    ∃ operation, resolve (.map []) "/users" "post" "users" definition [] {} = .ok operation ∧
      operation.parameters.Pairwise (fun p q => ¬ (p.prop = q.prop ∧ p.location = q.location)) ∧
      ¬ operation.HasUsableNames := by
  intro parameter definition
  obtain ⟨operation, resolved, locations, names⟩ : ∃ operation,
      resolve (.map []) "/users" "post" "users" definition [] {} = .ok operation ∧
        operation.parameters.map Parameter.location = [.path, .query] ∧
        operation.parameters.map Parameter.name = ["id", "id"] := ⟨_, rfl, rfl, rfl⟩
  refine ⟨operation, resolved, ?_, fun usable => ?_⟩
  · -- The two are at different locations.
    have apart : (operation.parameters.map Parameter.location).Nodup := by simp [locations]
    exact (List.pairwise_map.mp apart).imp fun other same => other same.2
  · have distinct := usable.distinct
    simp [names] at distinct

end Operation

end TypedClient
