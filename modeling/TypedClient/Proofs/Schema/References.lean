import TypedClient.Proofs.Schema.TypeAtoms

/-! References that point to no known place, and steps that fail exactly if they meet one. -/

namespace TypedClient

/-- A reference is refused that has a number sign and, once it is trimmed, begins with none of the known places. -/
def IsUnsupported (ref : String) : Prop :=
  '#' ∈ ref.toList ∧ ∀ place ∈ componentPlaces, ¬ place.toList <+: Text.trim ref.toList

instance (ref : String) : Decidable (IsUnsupported ref) :=
  inferInstanceAs (Decidable (_ ∧ _))

/-- The error that refuses a reference. -/
def refusal (ref : String) : Error :=
  .unsupportedReference (String.ofList (Text.trim ref.toList))

variable {ref token : String}

/-- An unsupported reference has no name inside it. -/
theorem stripNamespace_of_unsupported (unsupported : IsUnsupported ref) :
    stripNamespace ref = .error (refusal ref) := by
  obtain ⟨hash, elsewhere⟩ := unsupported
  have kept : '#' ∈ Text.trim ref.toList := (Text.mem_trim (by decide)).mpr hash
  simp only [stripNamespace, afterPlace?_eq_none_iff.mpr elsewhere]
  exact if_pos (List.contains_iff_mem.mpr kept)

/-- Any other text has one. -/
theorem exists_stripNamespace (supported : ¬ IsUnsupported ref) : ∃ name, stripNamespace ref = .ok name := by
  cases found : afterPlace? componentPlaces (Text.trim ref.toList) with
  | some name => exact ⟨_, by simp only [stripNamespace, found]; rfl⟩
  | none =>
    -- Without a place in front, it is a number sign that would have it refused.
    have local_ : '#' ∉ Text.trim ref.toList := fun mem =>
      supported ⟨Text.trim_subset _ mem, afterPlace?_eq_none_iff.mp found⟩
    have kept : (Text.trim ref.toList).contains '#' = false := by simpa using local_
    exact ⟨String.ofList (Text.trim ref.toList), by simp only [stripNamespace, found, kept]; rfl⟩

/-- A text stands for a type unless it is an unsupported reference. -/
theorem exists_resolveType (supported : ¬ IsUnsupported token) (format : Value) :
    ∃ type, resolveType (.text token) format = .ok type := by
  have made : ∃ own, TypeUse.ofToken (.text token) format = .ok own := by
    rw [TypeUse.ofToken]
    -- An empty token and the binary format need no name.
    split
    · exact ⟨_, rfl⟩
    split
    · exact ⟨_, rfl⟩
    · obtain ⟨name, stripped⟩ := exists_stripNamespace supported
      change ∃ own, TypeUse.ofText token format = .ok own
      rw [TypeUse.ofText]
      split
      · exact ⟨_, rfl⟩
      · exact ⟨_, by rw [stripped]; rfl⟩
  obtain ⟨own, made⟩ := made
  exact ⟨_, resolveType_scalar_eq_ok.mpr ⟨own, made, rfl⟩⟩

/-- An unsupported reference stands for no type. -/
theorem resolveType_of_unsupported (unsupported : IsUnsupported ref) :
    resolveType (.text ref) = .error (refusal ref) := by
  have truthy : (Value.text ref).truthy = true := by
    have nonempty : ref ≠ "" := by
      rintro rfl
      exact absurd unsupported.1 (by decide)
    simpa [Value.truthy, Scalar.truthy] using nonempty
  -- No primitive token has a number sign.
  have unmapped : mappedType? ref .null = none := by
    have plain : ∀ entry ∈ primitiveTypes, '#' ∉ entry.1.toList := by decide
    refine List.lookup_eq_none_iff.mpr fun entry mem => ?_
    rw [bne_iff_ne]
    rintro rfl
    exact plain entry mem unsupported.1
  have refused : TypeUse.ofToken (.text ref) .null = .error (refusal ref) := by
    rw [TypeUse.ofToken, truthy]
    change TypeUse.ofText ref .null = _
    rw [TypeUse.ofText, unmapped, stripNamespace_of_unsupported unsupported]
    rfl
  change ({ toTypeUse := · } : TypeUse → ResolvedType) <$> TypeUse.ofToken (.text ref) .null = _
  rw [refused]
  rfl

namespace Schema

/-- The step fails exactly if one of the references that it visits is unsupported, and reports one that is. -/
structure Reports {α : Type} (x : Outcome α) (visited : String → Prop) : Prop where
  /-- What succeeds has visited no unsupported reference. -/
  supported : ∀ a, x = .ok a → ∀ ref, visited ref → ¬ IsUnsupported ref
  /-- What fails has visited the reference that it is refused for. -/
  refused : ∀ e, x = .error e → ∃ ref, visited ref ∧ IsUnsupported ref ∧ e = refusal ref

namespace Reports

variable {α β : Type} {x : Outcome α} {f : α → Outcome β} {visited others : String → Prop}

/-- What cannot fail has no references to visit. -/
theorem of_ok {a : α} (done : x = .ok a) : Reports x fun _ => False :=
  ⟨fun _ _ _ none => none.elim, fun e failed => by cases done.symm.trans failed⟩

/-- It only matters which references are visited. -/
theorem congr (reports : Reports x visited) (same : ∀ ref, others ref ↔ visited ref) : Reports x others := by
  obtain rfl : others = visited := funext fun ref => propext (same ref)
  exact reports

/-- Two steps visit what either of them does. -/
theorem bind (first : Reports x visited) (second : ∀ a, x = .ok a → Reports (f a) others) :
    Reports (x >>= f) fun ref => visited ref ∨ others ref := by
  cases found : x with
  | error e =>
    -- The second step is not taken, and the first one has failed for a reason.
    obtain ⟨ref, there, unsupported, same⟩ := first.refused e found
    refine ⟨nofun, fun e' failed => ?_⟩
    cases failed
    exact ⟨ref, .inl there, unsupported, same⟩
  | ok a =>
    have next := second a found
    refine ⟨fun b done ref there => ?_, fun e failed => ?_⟩
    · exact there.elim (first.supported a found ref) (next.supported b done ref)
    · obtain ⟨ref, there, refused⟩ := next.refused e failed
      exact ⟨ref, .inr there, refused⟩

/-- A second step that visits nothing makes no difference. -/
theorem bind_ok (first : Reports x visited) (second : ∀ a, x = .ok a → ∃ b, f a = .ok b) :
    Reports (x >>= f) visited := by
  have both := first.bind fun a found => of_ok (second a found).choose_spec
  exact both.congr fun ref => (or_false _).symm.to_iff

/-- A first step that cannot fail makes no difference. -/
theorem after {a : α} (done : x = .ok a) (second : Reports (f a) visited) : Reports (x >>= f) visited := by
  rw [done]
  exact second

/-- A step for each item of a list visits what any of the steps does. -/
theorem mapM {xs : List α} {visits : α → String → Prop} (each : ∀ x ∈ xs, Reports (f x) (visits x)) :
    Reports (xs.mapM f) fun ref => ∃ x ∈ xs, visits x ref := by
  induction xs with
  | nil => exact (of_ok rfl).congr (by simp)
  | cons first rest ih =>
    obtain ⟨own, later⟩ := List.forall_mem_cons.mp each
    rw [List.mapM_cons]
    refine (own.bind fun y _ => (ih later).bind_ok fun ys _ => ⟨_, rfl⟩).congr fun ref => ?_
    simp

/-- There is a result if no unsupported reference is visited. -/
theorem exists_ok (reports : Reports x visited) (none : ¬ ∃ ref, visited ref ∧ IsUnsupported ref) :
    ∃ a, x = .ok a := by
  cases made : x with
  | ok a => exact ⟨a, rfl⟩
  | error e =>
    obtain ⟨ref, there, unsupported, -⟩ := reports.refused e made
    exact absurd ⟨ref, there, unsupported⟩ none

/-- A reference is refused exactly if one is visited that has to be. -/
theorem refused_iff (reports : Reports x visited) :
    (∃ text, x = .error (.unsupportedReference text)) ↔ ∃ ref, visited ref ∧ IsUnsupported ref := by
  constructor
  · rintro ⟨text, failed⟩
    obtain ⟨ref, there, unsupported, -⟩ := reports.refused _ failed
    exact ⟨ref, there, unsupported⟩
  · rintro ⟨ref, there, unsupported⟩
    cases made : x with
    | ok a => exact absurd unsupported (reports.supported a made ref there)
    | error e =>
      -- Whatever the reason is, it is a refused reference.
      obtain ⟨_, -, -, rfl⟩ := reports.refused e made
      exact ⟨_, rfl⟩

end Reports

/-- A reference that is looked at is reported if it is unsupported. -/
theorem reports_resolveType (ref : String) : Reports (resolveType (.text ref)) (· = ref) := by
  by_cases unsupported : IsUnsupported ref
  · have failed := resolveType_of_unsupported unsupported
    refine ⟨fun a done => ?_, fun e other => ⟨ref, rfl, unsupported, ?_⟩⟩
    · cases failed.symm.trans done
    · exact (Except.error.inj (failed.symm.trans other)).symm
  · obtain ⟨type, made⟩ := exists_resolveType unsupported .null
    refine ⟨fun _ _ other same => by rwa [same], fun e failed => by cases made.symm.trans failed⟩

end Schema

end TypedClient
