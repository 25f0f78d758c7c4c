import TypedClient.Proofs.Client.Models
import TypedClient.Proofs.Schema.NestedNames
import TypedClient.Proofs.Value.Equality

/-! When the enums that are declared beside the models of a client have legal names. -/

namespace TypedClient.Client

variable {document : Value} {client : Client} {config : Config} {m : Model}

/-- The enums inside a model of a client have the names that their origins in its schema give them, each of which is
legal exactly if the origin fits. -/
theorem nestedEnums_of_ofDocument (built : ofDocument document config = .ok client) (mem : m ∈ client.models) :
    ∃ name schema, Schema.Declares document name schema ∧ m.name = .text name ∧
      List.Forall₂ (fun (origin : Schema.Origin) e => e.name = .text origin.name ∧
        (Name.IsLegalName origin.name ↔ origin.Fits)) (Schema.origins (.text name) schema) m.enums := by
  obtain ⟨models, found, modelsEq, -⟩ := ofDocument_eq_ok built
  obtain ⟨source, inside, same⟩ : ∃ source ∈ models, source.outline = m.outline := by
    rw [← List.mem_map, ← EnumRegistry.outlines_nameModels [] models, ← modelsEq]
    exact List.mem_map_of_mem mem
  obtain ⟨name, schema, bare, _, _, _, declares, resolved, rfl⟩ := Schema.exists_declared found inside
  -- Exported names, and what is said where a schema is declared, leave all other names as they are.
  obtain ⟨-, sameName, sameNames⟩ : bare.variant = m.variant ∧ bare.name = m.name ∧
      bare.enums.map Model.name = m.enums.map Model.name := by simpa [Model.outline] using same
  have named := Schema.namedBy_of_resolve resolved
  rw [Schema.NamedBy, sameNames, ← List.forall₂_eq_eq_eq, List.forall₂_map_left_iff,
    List.forall₂_map_right_iff] at named
  refine ⟨name, schema, declares, ?_, ?_⟩
  · rw [← sameName, Schema.name_of_resolve resolved]
  · exact named.flip.imp fun origin e given => ⟨given, Schema.isLegalName_iff_fits origin⟩

/-- A property of a property whose key has a hyphen, and the second of the alternatives that are enums. -/
theorem nestedEnums_of_ofDocument_levels :
    let enum (value : String) : Value := .map [(.text "enum", .list [.text value])]
    let document : Value := .map [(.text "swagger", "2.0"), (.text "definitions", .map [
      (.text "Pet", .map [(.text "properties", .map [
        (.text "home-town", .map [(.text "properties", .map [(.text "zip_code", enum "a")])]),
        (.text "kind", .map [(.text "anyOf", .list [enum "b", enum "c"])])])])])]
    ∃ client m name schema, ofDocument document {} = .ok client ∧ m ∈ client.models ∧
      m.enums.map Model.label = ["home-townZipCode", "kindEnum", "kindEnum2"] ∧
      Schema.Declares document name schema ∧ m.name = .text name ∧
      List.Forall₂ (fun (origin : Schema.Origin) e => e.name = .text origin.name ∧
        (Name.IsLegalName origin.name ↔ origin.Fits)) (Schema.origins (.text name) schema) m.enums := by
  intro enum document
  obtain ⟨client, built, seen⟩ := Outcome.exists_of_any (x := ofDocument document {})
    (p := fun client => client.models.map (fun m => m.enums.map Model.label)
      == [["home-townZipCode", "kindEnum", "kindEnum2"]]) (by decide +kernel)
  obtain ⟨m, single, labels⟩ := List.map_eq_singleton_iff.mp (beq_iff_eq.mp seen)
  have mem : m ∈ client.models := by simp [single]
  obtain ⟨name, schema, declares, named, each⟩ := nestedEnums_of_ofDocument built mem
  exact ⟨client, m, name, schema, built, mem, labels, declares, named, each⟩

/-- A slash in the key of a property stays in the name of the enum that is exported for it. -/
theorem not_isIdentifierName_slash :
    let document : Value := .map [(.text "swagger", "2.0"), (.text "definitions", .map [
      (.text "Pet", .map [(.text "properties", .map [
        (.text "a/b", .map [(.text "enum", .list ["x"])])])])])]
    ∃ client m e, ofDocument document {} = .ok client ∧ m ∈ client.models ∧ e ∈ m.enums ∧
      e.enumName.isSome ∧ ∃ name, e.name = .text name ∧ ¬ TypeScript.isIdentifierName name = true := by
  intro document
  obtain ⟨client, built, seen⟩ := Outcome.exists_of_any (x := ofDocument document {})
    (p := fun client => client.models.any fun m => m.enums.any fun e =>
      e.enumName.isSome && e.name == .text "PetA/b") (by decide +kernel)
  obtain ⟨m, inside, seen⟩ := List.any_eq_true.mp seen
  obtain ⟨e, nested, seen⟩ := List.any_eq_true.mp seen
  obtain ⟨exported, named⟩ := Bool.and_eq_true_iff.mp seen
  exact ⟨client, m, e, built, inside, nested, exported, "PetA/b", Value.beq_text.mp named, by decide⟩

end TypedClient.Client
