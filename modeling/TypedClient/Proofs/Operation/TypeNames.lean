import TypedClient.Client.Build
import TypedClient.Declaration.Operations
import TypedClient.Proofs.Name.Words
import TypedClient.Proofs.Outcome

/-! The names of the types of operations, and which operations share them. -/

namespace TypedClient

namespace Operation

/-- The words that the types of an operation are named by: those of its service and then its own. -/
def typeWords (operation : Operation) : List (List Char) :=
  Name.joinSeam ((Name.words operation.service.toList).map Text.capitalize)
    ((Name.words operation.name.toList).map Text.capitalize)

/-- There is no separator in what an operation is named by. -/
structure IsCased (operation : Operation) : Prop where
  service : Name.IsJoined operation.service.toList
  name : Name.IsJoined operation.name.toList
  method : Name.IsJoined operation.method.toList

variable {document url tag definition : Value} {method : String} {shared : List Parameter}
  {config : Config} {a b operation : Operation} {operations : List Operation}

/-- The words of the types of an operation are told from each other by humps. -/
theorem IsCased.humped (cased : operation.IsCased) : Name.Humped operation.typeWords :=
  (Name.humped_words cased.service).joinSeam (Name.humped_words cased.name)

/-- The words of the types of an operation make the part that the names of its types have in common. -/
theorem flatten_typeWords (operation : Operation) :
    operation.typeWords.flatten = operation.typeName.toList := by
  rw [typeWords, Name.flatten_joinSeam, ← Name.camel_true_eq_flatten, ← Name.camel_true_eq_flatten]
  simp [typeName, pascalCase]

/-- Operations share the names of their types exactly if these are made of the same words. -/
theorem typeName_inj (cased : a.IsCased) (other : b.IsCased) :
    a.typeName = b.typeName ↔ a.typeWords = b.typeWords := by
  -- Words that humps show can be read off the name that they make.
  rw [← cased.humped.flatten_inj other.humped, flatten_typeWords, flatten_typeWords,
    String.toList_inj]

/-- The name of a service is in camel case. -/
theorem serviceName_eq_ok {name : String} (made : serviceName tag = .ok name) :
    ∃ cs, name = String.ofList (Name.camel true cs) := by
  simp only [serviceName, Outcome.bind_eq_ok, Outcome.pure_eq_ok] at made
  obtain ⟨cs, -, rfl⟩ := made
  exact ⟨cs, rfl⟩

/-- The name of an operation is in camel case, be it from its identifier or from its route. -/
theorem operationName_eq_ok {id : Value} {name : String}
    (made : operationName url method config id = .ok name) :
    ∃ cs, name = String.ofList (Name.camel false cs) := by
  unfold operationName at made
  split at made
  · simp only [Outcome.bind_eq_ok, Outcome.pure_eq_ok] at made
    obtain ⟨cs, -, rfl⟩ := made
    exact ⟨cs, rfl⟩
  · split at made
    · simp only [Outcome.pure_eq_ok, Name.ofRoute] at made
      exact ⟨_, made.symm⟩
    · cases made

/-- A resolved operation has the name, the service and the method that it is resolved for. -/
theorem named_of_resolve
    (resolved : resolve document url method tag definition shared config = .ok operation) :
    (∃ id, operationName url method config id = .ok operation.name) ∧
      serviceName tag = .ok operation.service ∧
      operation.method = String.ofList (Text.toUpper method.toList) := by
  simp only [resolve, Outcome.bind_eq_ok] at resolved
  obtain ⟨members, -, name, named, service, served, _, -, _, -, _, -, built⟩ := resolved
  -- The responses have no part in the names.
  split at built <;> simp only [Outcome.bind_eq_ok, Outcome.pure_eq_ok] at built <;>
    obtain ⟨_, -, rfl⟩ := built <;> exact ⟨⟨_, named⟩, served, rfl⟩

/-- A resolved operation is named in camel case. -/
theorem isCased_of_resolve (known : method ∈ methods)
    (resolved : resolve document url method tag definition shared config = .ok operation) :
    operation.IsCased := by
  have joined : ∀ key ∈ methods,
      ((Text.toUpper key.toList).all fun c => !Name.isSeparator c) = true := by decide +kernel
  obtain ⟨⟨id, named⟩, served, upper⟩ := named_of_resolve resolved
  obtain ⟨cs, name⟩ := operationName_eq_ok named
  obtain ⟨tagged, service⟩ := serviceName_eq_ok served
  refine ⟨?_, ?_, ?_⟩
  · simpa [service] using Name.isJoined_camel true tagged
  · simpa [name] using Name.isJoined_camel false cs
  · simpa [Name.IsJoined, upper] using joined method known

/-- No number has a separator in it. -/
theorem isJoined_toString (number : Nat) : Name.IsJoined (toString number).toList := by
  intro c mem
  have listed : c ∈ Nat.toDigits 10 number := by simpa using mem
  have digit : c.isDigit = true := Nat.isDigit_of_mem_toDigits (by decide) (by decide) listed
  have small : c.toNat < 58 := Nat.lt_succ_of_le (Char.isDigit_iff_toNat.mp digit).2
  -- The digits are a range of codes, which can be gone through.
  exact Text.of_codes (P := fun c => c.isDigit = true → Name.isSeparator c = false) (by decide) small digit

/-- Names stay in camel case when methods are put behind them. -/
theorem isCased_appendMethods {seen : List String} (cased : ∀ o ∈ operations, o.IsCased) :
    ∀ o ∈ appendMethods seen operations, o.IsCased := by
  induction operations generalizing seen with
  | nil => exact fun _ mem => nomatch mem
  | cons first rest ih =>
    obtain ⟨own, others⟩ := List.forall_mem_cons.mp cased
    rw [appendMethods]
    split
    · refine List.forall_mem_cons.mpr ⟨⟨own.service, ?_, own.method⟩, ih others⟩
      simpa [Name.IsJoined] using List.forall_mem_append.mpr ⟨own.name, own.method.capitalize⟩
    · exact List.forall_mem_cons.mpr ⟨own, ih others⟩

/-- Names stay in camel case when numbers are put behind them. -/
theorem isCased_appendCounts {seen : List String} (cased : ∀ o ∈ operations, o.IsCased) :
    ∀ o ∈ appendCounts seen operations, o.IsCased := by
  induction operations generalizing seen with
  | nil => exact fun _ mem => nomatch mem
  | cons first rest ih =>
    obtain ⟨own, others⟩ := List.forall_mem_cons.mp cased
    refine List.forall_mem_cons.mpr ⟨⟨own.service, ?_, own.method⟩, ih others⟩
    dsimp only
    split
    · exact own.name
    · rw [String.toList_append]
      exact List.forall_mem_append.mpr ⟨own.name, isJoined_toString _⟩

end Operation

namespace Service

open Operation (IsCased)

variable {document : Value} {config : Config} {services : List Service} {operation : Operation}

/-- Placing an operation among services of operations of a kind gives such services if it is of the kind. -/
theorem forall_place {P : Operation → Prop} (held : ∀ s ∈ services, ∀ o ∈ s.operations, P o)
    (own : P operation) : ∀ s ∈ place operation services, ∀ o ∈ s.operations, P o := by
  induction services with
  | nil => simpa [place, add] using own
  | cons service rest ih =>
    obtain ⟨first, others⟩ := List.forall_mem_cons.mp held
    rw [place]
    split
    · refine List.forall_mem_cons.mpr ⟨List.forall_mem_append.mpr ⟨first, ?_⟩, others⟩
      simpa using own
    · exact List.forall_mem_cons.mpr ⟨first, ih others⟩

/-- Whatever holds of all operations holds of those of every service that they are grouped into. -/
theorem forall_group {P : Operation → Prop} {operations : List Operation}
    (held : ∀ o ∈ operations, P o) : ∀ s ∈ group operations, ∀ o ∈ s.operations, P o := by
  rw [group]
  -- The services are filled one operation after the other, so it is shown for any that are there.
  suffices general : ∀ services : List Service, (∀ s ∈ services, ∀ o ∈ s.operations, P o) →
      ∀ s ∈ operations.foldl (fun services operation => place operation services) services,
        ∀ o ∈ s.operations, P o by
    exact general [] (by simp)
  induction operations with
  | nil => exact fun _ held => held
  | cons first rest ih =>
    obtain ⟨own, others⟩ := List.forall_mem_cons.mp held
    exact fun services there => ih others _ (forall_place there own)

/-- Every operation of a path is named in camel case. -/
theorem isCased_of_operationsOfPath {url : Scalar} {item : Value} {operations : List Operation}
    (made : operationsOfPath document config url item = .ok operations) :
    ∀ o ∈ operations, o.IsCased := by
  simp only [operationsOfPath, Outcome.bind_eq_ok, Outcome.pure_eq_ok] at made
  obtain ⟨_, -, shared, -, entries, -, each, done, rfl⟩ := made
  intro o mem
  obtain ⟨ofEntry, inside, mem⟩ := List.mem_flatten.mp mem
  obtain ⟨⟨key, definition⟩, -, made⟩ := Outcome.exists_item done inside
  -- Only an entry for a method gives any operations, one for each tag.
  unfold operationsOf at made
  split at made
  · split at made
    · next method known =>
      obtain ⟨tags, -, made⟩ := Outcome.bind_eq_ok.mp made
      obtain ⟨tag, -, resolved⟩ := Outcome.exists_item made mem
      exact Operation.isCased_of_resolve (by simpa using known) resolved
    · cases made
      cases mem
  · cases made
    cases mem

/-- Every operation of a document is named in camel case. -/
theorem isCased_of_all (built : all document config = .ok services) :
    ∀ s ∈ services, ∀ o ∈ s.operations, o.IsCased := by
  simp only [all, Outcome.bind_eq_ok, Outcome.pure_eq_ok] at built
  obtain ⟨_, -, paths, -, each, done, rfl⟩ := built
  have cased : ∀ o ∈ each.flatten, o.IsCased := by
    intro o mem
    obtain ⟨ofPath, inside, mem⟩ := List.mem_flatten.mp mem
    obtain ⟨entry, -, made⟩ := Outcome.exists_item done inside
    exact isCased_of_operationsOfPath made o mem
  intro s mem
  -- The names are told from each other once the operations are grouped.
  obtain ⟨service, inside, rfl⟩ := List.mem_map.mp mem
  exact Operation.isCased_appendCounts (Operation.isCased_appendMethods (forall_group cased service inside))

end Service

namespace Client

variable {document : Value} {config : Config} {client : Client} {a b : Operation}

/-- Every operation of a client is named in camel case. -/
theorem isCased_of_ofDocument (built : ofDocument document config = .ok client) :
    ∀ o ∈ client.operations, o.IsCased := by
  simp only [ofDocument, ofModels, Outcome.bind_eq_ok, Outcome.pure_eq_ok] at built
  obtain ⟨_, -, models, -, services, served, _, -, _, -, rfl⟩ := built
  intro o mem
  obtain ⟨service, inside, mem⟩ := List.mem_flatMap.mp mem
  exact Service.isCased_of_all served service inside o mem

/--
Two operations of a client share the name of the type of their parameters exactly if they are named by
the same words, and so they do the name of the type of their responses.
-/
theorem typeNames_eq_iff (built : ofDocument document config = .ok client)
    (mem : a ∈ client.operations) (other : b ∈ client.operations) :
    (a.dataTypeName = b.dataTypeName ↔ a.typeWords = b.typeWords) ∧
      (a.responseTypeName = b.responseTypeName ↔ a.typeWords = b.typeWords) := by
  have cased := isCased_of_ofDocument built
  have words := Operation.typeName_inj (cased a mem) (cased b other)
  -- What is put behind the common part of the names is always the same.
  rw [← words]
  exact ⟨String.append_left_inj "Data", String.append_left_inj "Response"⟩

/-- Two routes of a service whose operations are named by the same words, and one that is named by others. -/
theorem typeNames_eq_iff_routes :
    let document : Value := .map [(.text "swagger", "2.0"), (.text "paths", .map [
      (.text "/a/b/c", .map [(.text "get", .map [])]), (.text "/abc", .map [(.text "get", .map [])]),
      (.text "/ab/c", .map [(.text "get", .map [])])])]
    ∃ client, ofDocument document {} = .ok client ∧
      ∃ a ∈ client.operations, ∃ b ∈ client.operations, ∃ c ∈ client.operations,
        (a.name = "getABC" ∧ b.name = "getAbc" ∧ c.name = "getAbC") ∧
        a.dataTypeName = b.dataTypeName ∧ c.dataTypeName ≠ b.dataTypeName := by
  intro document
  obtain ⟨client, built, seen⟩ := Outcome.exists_of_any (x := ofDocument document {})
    (p := fun client => client.operations.any fun a => client.operations.any fun b =>
      client.operations.any fun c =>
        decide (a.name = "getABC" ∧ b.name = "getAbc" ∧ c.name = "getAbC") &&
          decide (a.typeWords = b.typeWords) && !decide (c.typeWords = b.typeWords))
    (by decide +kernel)
  simp only [List.any_eq_true, Bool.and_eq_true, Bool.not_eq_true', decide_eq_true_eq,
    decide_eq_false_iff_not] at seen
  obtain ⟨a, first, b, second, c, third, ⟨named, same⟩, other⟩ := seen
  have shared := (typeNames_eq_iff built first second).1.mpr same
  have apart := mt (typeNames_eq_iff built third second).1.mp other
  exact ⟨client, built, a, first, b, second, c, third, named, shared, apart⟩

/--
Operations whose types share their names: two routes of a service that differ in where words begin, and
two pairs in different services, whose names are cut elsewhere.
-/
theorem not_nodup_dataTypeNames :
    let operation (tag id : String) : Value :=
      .map [(.text "get", .map [(.text "tags", .list [.text tag]), (.text "operationId", .text id)])]
    let document : Value := .map [(.text "swagger", "2.0"), (.text "paths", .map [
      (.text "/a/b/c", operation "Shop" ""), (.text "/abc", operation "Shop" ""),
      (.text "/bar", operation "Foo" "barBaz"), (.text "/baz", operation "FooBar" "baz"),
      (.text "/x", operation "Foo" "日本"), (.text "/y", operation "Foo日" "本")])]
    ∃ client, ofDocument document {} = .ok client ∧
      (∀ service ∈ client.services, (service.operations.map Operation.name).Nodup) ∧
      (client.operations.map fun o => (o.service, o.name))
        = [("Shop", "getABC"), ("Shop", "getAbc"), ("Foo", "barBaz"), ("Foo", "日本"), ("FooBar", "baz"),
          ("Foo日", "本")] ∧
      client.operations.map Operation.dataTypeName
        = ["ShopGetAbcData", "ShopGetAbcData", "FooBarBazData", "Foo日本Data", "FooBarBazData",
          "Foo日本Data"] ∧
      ¬ (client.operations.map Operation.dataTypeName).Nodup := by
  intro operation document
  obtain ⟨client, built, seen⟩ := Outcome.exists_of_any (x := ofDocument document {})
    (p := fun client =>
      (client.services.all fun service => decide (service.operations.map Operation.name).Nodup) &&
      decide ((client.operations.map fun o => (o.service, o.name))
        = [("Shop", "getABC"), ("Shop", "getAbc"), ("Foo", "barBaz"), ("Foo", "日本"), ("FooBar", "baz"),
          ("Foo日", "本")]) &&
      decide (client.operations.map Operation.dataTypeName
        = ["ShopGetAbcData", "ShopGetAbcData", "FooBarBazData", "Foo日本Data", "FooBarBazData",
          "Foo日本Data"]))
    (by decide +kernel)
  simp only [Bool.and_eq_true, List.all_eq_true, decide_eq_true_eq] at seen
  obtain ⟨⟨distinct, named⟩, types⟩ := seen
  exact ⟨client, built, distinct, named, types, by rw [types]; decide⟩

end Client

end TypedClient
