import Mathlib.Data.List.Nodup
import TypedClient.Client.Build
import TypedClient.Proofs.Schema.NestedEnums

/-! The exported names of the enums of a client: each of them is given out to the first that asks. -/

namespace TypedClient

/-- The kind and the name of a model, and the names of the enums inside it. -/
def Model.outline (m : Model) : Variant × Value × List Value :=
  (m.variant, m.name, m.enums.map Model.name)

/-- Whether a model can be declared as a whole depends on its outline only. -/
theorem Model.IsDeclarable.of_outline {m other : Model} (declarable : m.IsDeclarable)
    (same : m.outline = other.outline) : other.IsDeclarable := by
  obtain ⟨variant, name, names⟩ : m.variant = other.variant ∧ m.name = other.name ∧
      m.enums.map Model.name = other.enums.map Model.name := by simpa [outline] using same
  refine ⟨?_, ?_, ?_⟩
  · simpa [label, name] using declarable.named
  · intro e mem
    -- The enum has the name of one that is inside the other model.
    obtain ⟨source, inside, same⟩ := List.mem_map.mp (names ▸ List.mem_map_of_mem mem)
    simpa [label, same] using declarable.nested source inside
  · intro nested
    rw [← variant]
    refine declarable.within ?_
    rwa [ne_eq, ← List.map_eq_nil_iff, names, List.map_eq_nil_iff]

namespace EnumRegistry

/-- Enums have the names that they are given one after the other, and the registry is what it grows to. -/
inductive Named : EnumRegistry → List Model → EnumRegistry → Prop
  | nil {registry : EnumRegistry} : Named registry [] registry
  | cons {registry result : EnumRegistry} {e : Model} {rest : List Model}
      (head : e.enumName = (registry.assign e.label).1)
      (tail : Named (registry.assign e.label).2 rest result) : Named registry (e :: rest) result

variable {registry middle result : EnumRegistry} {enums more before after : List Model} {e : Model}

/-- An exported name is refused if there is none or if it is given out already, and recorded else. -/
theorem assign_cases (registry : EnumRegistry) (label : String) :
    ((label = "" ∨ exportedEnumName label ∈ registry) ∧ registry.assign label = (none, registry)) ∨
      (label ≠ "" ∧ exportedEnumName label ∉ registry ∧
        registry.assign label
          = (some (exportedEnumName label), registry ++ [exportedEnumName label])) := by
  -- The registry is looked at only for an enum that has a name.
  by_cases empty : label = ""
  · exact .inl ⟨.inl empty, by simp [assign, empty]⟩
  · by_cases taken : exportedEnumName label ∈ registry
    · exact .inl ⟨.inr taken, by simp [assign, empty, taken]⟩
    · exact .inr ⟨empty, taken, by simp [assign, empty, taken]⟩

namespace Named

/-- Enums after others are given what is left by these. -/
theorem append (first : Named registry enums middle) (second : Named middle more result) :
    Named registry (enums ++ more) result := by
  -- The registry that the first row leaves is the one that the second row starts from.
  induction first with
  | nil => exact second
  | cons head _ ih => exact .cons head (ih second)

/-- What is given to the first of two rows of enums comes before what is given to the second. -/
theorem exists_of_append (named : Named registry (enums ++ more) result) :
    ∃ middle, Named registry enums middle ∧ Named middle more result := by
  -- The first row is taken off enum by enum, so the registry at its start changes.
  induction enums generalizing registry with
  | nil => exact ⟨registry, .nil, named⟩
  | cons e rest ih =>
    obtain _ | ⟨head, tail⟩ := named
    obtain ⟨middle, first, second⟩ := ih tail
    exact ⟨middle, .cons head first, second⟩

/-- The registry grows by the names that are given out, in their order. -/
theorem result_eq (named : Named registry enums result) :
    result = registry ++ enums.filterMap Model.enumName := by
  -- An enum that is refused leaves no trace on either side.
  induction named with
  | nil => simp
  | @cons registry result e rest head _ ih =>
    obtain ⟨-, refused⟩ | ⟨-, -, given⟩ := assign_cases registry e.label
    · simp [ih, head, refused]
    · simp [ih, head, given]

/-- The registry never holds a name twice. -/
theorem nodup (named : Named registry enums result) (distinct : registry.Nodup) : result.Nodup := by
  induction named with
  | nil => exact distinct
  | @cons registry result e rest _ _ ih =>
    -- What is to be shown is that one enum keeps the names in the registry apart.
    apply ih
    obtain ⟨-, refused⟩ | ⟨-, fresh, given⟩ := assign_cases registry e.label
    · rw [refused]
      exact distinct
    · rw [given, ← List.concat_eq_append]
      exact List.Nodup.concat fresh distinct

/-- The registry holds the exported name of every enum that has a name, whoever it is given to. -/
theorem mem_result_iff (named : Named registry enums result) {name : String} :
    name ∈ result ↔
      name ∈ registry ∨ ∃ e ∈ enums, e.label ≠ "" ∧ exportedEnumName e.label = name := by
  induction named with
  | nil => simp
  | @cons registry result e rest _ _ ih =>
    rw [ih]
    obtain ⟨known, refused⟩ | ⟨nonempty, -, given⟩ := assign_cases registry e.label
    · -- An enum that is refused although it has a name finds it in the registry.
      have covered : e.label ≠ "" ∧ exportedEnumName e.label = name → name ∈ registry := by
        rintro ⟨nonempty, rfl⟩
        exact known.resolve_left nonempty
      rw [refused, List.exists_mem_cons_iff, ← or_assoc, or_iff_left_of_imp covered]
    · rw [given, List.exists_mem_cons_iff, ← or_assoc, List.mem_append, List.mem_singleton]
      simp [nonempty, eq_comm (a := name)]

/-- A name that is given out is the exported one. -/
theorem enumName_eq (named : Named registry enums result) {name : String} (mem : e ∈ enums)
    (given : e.enumName = some name) : name = exportedEnumName e.label := by
  induction named with
  | nil => cases mem
  | @cons registry result first rest head _ ih =>
    rcases List.mem_cons.mp mem with rfl | later
    · obtain ⟨-, refused⟩ | ⟨-, -, taken⟩ := assign_cases registry e.label <;> simp_all
    · exact ih later

/-- An enum with a name is refused exactly if its exported name was given out before. -/
theorem enumName_eq_none_iff (named : Named registry (before ++ e :: after) result)
    (nonempty : e.label ≠ "") :
    e.enumName = none ↔ exportedEnumName e.label ∈ registry ∨
      ∃ earlier ∈ before, earlier.label ≠ "" ∧
        exportedEnumName earlier.label = exportedEnumName e.label := by
  -- What counts is the registry that the enums before this one have left.
  obtain ⟨middle, first, second⟩ := named.exists_of_append
  obtain _ | ⟨head, -⟩ := second
  rw [← first.mem_result_iff, head]
  obtain ⟨known, refused⟩ | ⟨-, fresh, given⟩ := assign_cases middle e.label
  · simpa [refused] using known.resolve_left nonempty
  · simpa [given] using fresh

end Named

/-- One enum is named. -/
theorem named_nameEnum (registry : EnumRegistry) (e : Model) :
    Named registry [(nameEnum registry e).1] (nameEnum registry e).2 :=
  .cons rfl .nil

/-- Enums are named one after the other. -/
theorem named_nameEnums (registry : EnumRegistry) (enums : List Model) :
    Named registry (nameEnums registry enums).1 (nameEnums registry enums).2 := by
  induction enums generalizing registry with
  | nil => exact .nil
  | cons e rest ih => exact (named_nameEnum registry e).append (ih _)

/-- A model that is an enum is named before the enums inside it. -/
theorem nameModel_eq (registry : EnumRegistry) (m : Model) :
    nameModel registry m =
      let own := if m.isEnum then nameEnum registry m else (m, registry)
      ({ own.1 with enums := (nameEnums own.2 m.enums).1 }, (nameEnums own.2 m.enums).2) := by
  rw [nameModel]
  cases m.isEnum <;> rfl

/-- The enums of a model are named one after the other. -/
theorem named_nameModel (registry : EnumRegistry) (m : Model) :
    Named registry (nameModel registry m).1.namedEnums (nameModel registry m).2 := by
  rw [nameModel_eq]
  cases isEnum : m.isEnum with
  | true =>
    have nested := named_nameEnums (nameEnum registry m).2 m.enums
    -- The exported name makes no difference to whether the model is an enum.
    rw [Model.namedEnums, if_pos (by exact isEnum)]
    exact .cons rfl nested
  | false =>
    have nested := named_nameEnums registry m.enums
    have other : ¬ m.isEnum = true := by simp [isEnum]
    rw [Model.namedEnums, if_neg (by exact other)]
    exact nested

/-- The enums of all models are named one after the other. -/
theorem named_nameModels (registry : EnumRegistry) (models : List Model) :
    Named registry ((nameModels registry models).1.flatMap Model.namedEnums)
      (nameModels registry models).2 := by
  -- Every model goes on with the registry that the one before it has left.
  induction models generalizing registry with
  | nil => exact .nil
  | cons m rest ih =>
    rw [nameModels, List.flatMap_cons]
    exact (named_nameModel registry m).append (ih _)

/-- Enums keep their names when they are given exported ones. -/
theorem names_nameEnums (registry : EnumRegistry) (enums : List Model) :
    (nameEnums registry enums).1.map Model.name = enums.map Model.name := by
  induction enums generalizing registry with
  | nil => rfl
  | cons e rest ih => exact congrArg (e.name :: ·) (ih _)

/-- Models keep their kinds and all names when enums are given exported ones. -/
theorem outlines_nameModels (registry : EnumRegistry) (models : List Model) :
    (nameModels registry models).1.map Model.outline = models.map Model.outline := by
  induction models generalizing registry with
  | nil => rfl
  | cons m rest ih =>
    have own : (nameModel registry m).1.outline = m.outline := by
      rw [nameModel_eq, Model.outline, Model.outline, names_nameEnums]
      cases m.isEnum <;> rfl
    rw [nameModels, List.map_cons, List.map_cons, own, ih]

end EnumRegistry

namespace Client

variable {document : Value} {client : Client} {config : Config}

/-- The client of a document has its models, whose enums are given their exported names. -/
theorem ofDocument_eq_ok (built : ofDocument document config = .ok client) :
    ∃ models, Schema.models document = .ok models ∧
      client.models = (EnumRegistry.nameModels [] models).1 ∧
      client.enumNames = (EnumRegistry.nameModels [] models).2 := by
  simp only [ofDocument, ofModels, Outcome.bind_eq_ok, Outcome.pure_eq_ok] at built
  obtain ⟨_, -, models, found, services, -, server, -, version, -, rfl⟩ := built
  exact ⟨models, found, rfl, rfl⟩

/-- The enums of a client are named one after the other, from an empty registry on. -/
theorem named_enums (built : ofDocument document config = .ok client) :
    EnumRegistry.Named [] client.enums client.enumNames := by
  obtain ⟨models, -, modelsEq, namesEq⟩ := ofDocument_eq_ok built
  rw [enums, modelsEq, namesEq]
  exact EnumRegistry.named_nameModels [] models

/-- Every model of a client can be declared as a whole. -/
theorem isDeclarable_of_ofDocument (built : ofDocument document config = .ok client) :
    ∀ m ∈ client.models, m.IsDeclarable := by
  obtain ⟨models, found, modelsEq, -⟩ := ofDocument_eq_ok built
  intro m mem
  -- The model is one of the document, but for exported names, of which nothing is said.
  obtain ⟨source, inside, same⟩ : ∃ source ∈ models, source.outline = m.outline := by
    rw [← List.mem_map, ← EnumRegistry.outlines_nameModels [] models, ← modelsEq]
    exact List.mem_map_of_mem mem
  exact (Schema.isDeclarable_of_models found source inside).of_outline same

/-- Every enum of a client has a name. -/
theorem label_ne_empty_of_mem_enums (built : ofDocument document config = .ok client) :
    ∀ e ∈ client.enums, e.label ≠ "" := by
  intro e mem
  -- The enum is a model itself, or stands inside one.
  obtain ⟨m, inside, mem⟩ := List.mem_flatMap.mp mem
  have declarable := isDeclarable_of_ofDocument built m inside
  rcases List.mem_append.mp mem with own | nested
  · split at own
    · rw [List.mem_singleton.mp own]
      exact declarable.named
    · cases own
  · exact declarable.nested e nested

/-- Exported names are given to the enums of a client in their order, each to the first that has it. -/
structure ExportsOnce (client : Client) : Prop where
  /-- The registry holds just the names that are given out, in the order of the enums. -/
  registered : client.enumNames = client.enums.filterMap Model.enumName
  /-- No name is given out twice. -/
  distinct : client.enumNames.Nodup
  /-- The name that an enum is given is its own in exported form. -/
  own : ∀ e ∈ client.enums, ∀ name, e.enumName = some name → name = exportedEnumName e.label
  /-- An enum goes without a name exactly if an earlier one has the same exported form. -/
  first : ∀ before e after, client.enums = before ++ e :: after → e.label ≠ "" →
    (e.enumName = none ↔
      ∃ earlier ∈ before, exportedEnumName earlier.label = exportedEnumName e.label)

/-- The client of a document exports each name of an enum once, whatever names the enums have. -/
theorem exportsOnce_of_ofDocument (built : ofDocument document config = .ok client) :
    client.ExportsOnce := by
  have named := named_enums built
  refine ⟨named.result_eq, named.nodup .nil, fun e mem name => named.enumName_eq mem, ?_⟩
  intro before e after split nonempty
  rw [split] at named
  rw [named.enumName_eq_none_iff nonempty, or_iff_right List.not_mem_nil]
  -- No enum is without a name, so every earlier one counts.
  have counts : ∀ earlier ∈ before, earlier.label ≠ "" := fun earlier mem =>
    label_ne_empty_of_mem_enums built earlier (by rw [split]; exact List.mem_append_left _ mem)
  exact exists_congr fun earlier => and_congr_right fun mem => and_iff_right (counts earlier mem)

/-- Two schemas and a property whose names agree in exported form, and a further property. -/
theorem exportsOnce_of_ofDocument_collision :
    let enum (value : String) : Value := .map [(.text "enum", .list [.text value])]
    let document : Value := .map [(.text "swagger", "2.0"), (.text "definitions", .map [
      (.text "pet_status", enum "a"), (.text "PetStatus", enum "b"),
      (.text "Pet", .map [(.text "properties", .map [
        (.text "status", enum "c"), (.text "kind", enum "d")])])])]
    ∃ client, ofDocument document {} = .ok client ∧
      client.enums.map Model.label = ["pet_status", "PetStatus", "PetStatus", "PetKind"] ∧
      client.enums.map Model.enumName = [some "PetStatus", none, none, some "PetKind"] ∧
      client.ExportsOnce := by
  intro enum document
  obtain ⟨client, built, seen⟩ := Outcome.exists_of_any (x := ofDocument document {})
    (p := fun client =>
      client.enums.map Model.label == ["pet_status", "PetStatus", "PetStatus", "PetKind"] &&
        client.enums.map Model.enumName == [some "PetStatus", none, none, some "PetKind"])
    (by decide +kernel)
  obtain ⟨labels, names⟩ := Bool.and_eq_true_iff.mp seen
  exact ⟨client, built, by simpa using labels, by simpa using names, exportsOnce_of_ofDocument built⟩

end Client

end TypedClient
