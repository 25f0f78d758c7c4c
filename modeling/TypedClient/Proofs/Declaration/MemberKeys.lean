import TypedClient.Proofs.Declaration.EnumValues
import TypedClient.Proofs.Declaration.Files
import TypedClient.Proofs.Name.EnumMember

/-! The members that an enum is declared with: their keys are those of properties, and when all of these differ. -/

namespace TypedClient

open TypeScript (Denotes)

section Members

variable {e : EnumValue} {member : EnumMember} {m : Model} {members : List EnumMember}

/-- The key of a member without a custom name denotes the name that its value gives it. -/
theorem EnumValue.denotes_key (unnamed : e.customName.truthy = false) (made : e.member = .ok member) :
    ∃ key, member.key = .text key ∧ Denotes key member.value.memberName := by
  simp only [EnumValue.member, Outcome.bind_eq_ok, Outcome.pure_eq_ok] at made
  obtain ⟨comment, -, rfl⟩ := made
  simp only [enumKey, unnamed, Bool.false_eq_true, if_false]
  -- What is no scalar is treated as null is.
  cases e.value with
  | scalar s => exact ⟨_, rfl, s.denotes_enumKey⟩
  | _ => exact ⟨_, rfl, Scalar.denotes_enumKey .null⟩

/-- Members that stand for different values have different names exactly if no two of the values clash. -/
theorem nodup_memberNames_iff {values : List Value}
    (enumerable : ∀ v ∈ values, Schema.isEnumerable v = true)
    (apart : values.Pairwise fun v w => v.same w = false) :
    (values.map Value.memberName).Nodup ↔ values.Pairwise fun v w => ¬ v.Clash w := by
  rw [List.Nodup, List.pairwise_map]
  have pair {v w : Value} (first : v ∈ values) (second : w ∈ values) (apart : v.same w = false) :
      v.memberName = w.memberName ↔ v.Clash w :=
    Value.memberName_eq_iff ⟨enumerable v first, enumerable w second⟩ apart
  constructor
  · intro names
    refine (apart.and names).imp_of_mem fun first second both => ?_
    exact mt (pair first second both.1).mpr both.2
  · intro free
    refine (apart.and free).imp_of_mem fun first second both => ?_
    exact mt (pair first second both.1).mp both.2

end Members

namespace Client

variable {document : Value} {client : Client} {config : Config} {e : Model} {name : String}

/-- Every enum that a client declares has the values that some schema lists. -/
theorem listed_of_mem_enums (built : ofDocument document config = .ok client) (mem : e ∈ client.enums) :
    ∃ members, Schema.enumValues members = .ok e.enum := by
  obtain ⟨m, inside, mem⟩ := List.mem_flatMap.mp mem
  obtain ⟨_, schema, bare, resolved, variant, enum, nested⟩ := exists_resolved_of_mem_models built inside
  rcases List.mem_append.mp mem with own | within
  · split at own
    · next isEnum =>
      rw [List.mem_singleton.mp own, enum]
      have bareIsEnum : bare.isEnum = true := by rwa [Model.isEnum, ← variant]
      obtain ⟨members, listed, -⟩ := Schema.enum_of_resolve resolved bareIsEnum
      exact ⟨members, listed⟩
    · cases own
  · -- Exported names leave the values as they are.
    obtain ⟨source, found, same⟩ := List.mem_map.mp (nested ▸ List.mem_map_of_mem within)
    have values : source.enum = e.enum := (congrArg Model.enum same :)
    exact values ▸ (Schema.nestsEnums_of_resolve resolved source (.inl found)).listed

/-- An enum with an exported name is declared among the types, as its style has it. -/
theorem exists_exportedAs (built : ofDocument document config = .ok client) (mem : e ∈ client.enums)
    (exported : e.enumName = some name) {types : OutputFile} (made : client.typesFile config = .ok types) :
    ∃ members comment, e.enum.mapM EnumValue.member = .ok members ∧
      e.exportedAs config.enums name members comment <:+: types.declarations := by
  obtain ⟨-, ds, others, modelsMade, -, held⟩ := typesFile_eq_ok made
  simp only [modelDeclarations, Outcome.bind_eq_ok, Outcome.pure_eq_ok] at modelsMade
  obtain ⟨parts, partsMade, rfl⟩ := modelsMade
  obtain ⟨m, inside, within⟩ := List.mem_flatMap.mp mem
  obtain ⟨whole, isPart, wholeMade⟩ := Outcome.exists_result partsMade inside
  -- The enums of a model are declared behind the model itself.
  rw [(isDeclarable_of_ofDocument built m inside).declarations_eq] at wholeMade
  simp only [Outcome.bind_eq_ok, Outcome.pure_eq_ok] at wholeMade
  obtain ⟨own, -, each, eachMade, rfl⟩ := wholeMade
  obtain ⟨declared, isDeclared, declaredMade⟩ := Outcome.exists_result eachMade within
  rw [Model.enumDeclarations_eq (isEnum_of_mem_enums built mem), exported] at declaredMade
  simp only [Outcome.bind_eq_ok, Outcome.pure_eq_ok] at declaredMade
  obtain ⟨members, membersMade, comment, -, rfl⟩ := declaredMade
  refine ⟨members, comment, membersMade, ?_⟩
  calc e.exportedAs config.enums name members comment
      <:+: each.flatten := List.infix_of_mem_flatten isDeclared
    _ <:+: own ++ each.flatten := (List.suffix_append _ _).isInfix
    _ <:+: parts.flatten := List.infix_of_mem_flatten isPart
    _ <:+: types.declarations := held ▸ (List.prefix_append _ _).isInfix

/-- The members of an enum without custom names have keys that denote names of properties, which all differ exactly
if no two of its values clash. -/
theorem memberKeys_iff_clash (built : ofDocument document config = .ok client) (mem : e ∈ client.enums)
    (exported : e.enumName = some name) (style : config.enums ≠ .union)
    (unnamed : ∀ value ∈ e.enum, value.customName.truthy = false) {types : OutputFile}
    (made : client.typesFile config = .ok types) :
    ∃ members comment,
      (.enum name members comment ∈ types.declarations ∨
        .constObject name members comment ∈ types.declarations) ∧
      members.map EnumMember.value = e.enum.map EnumValue.value ∧
      (∀ member ∈ members, ∃ key, member.key = .text key ∧ Denotes key member.value.memberName) ∧
      ((members.map fun member => member.value.memberName).Nodup ↔
        members.Pairwise fun a b => ¬ a.value.Clash b.value) := by
  obtain ⟨members, comment, membersMade, within⟩ := exists_exportedAs built mem exported made
  have values := Model.values_of_members membersMade
  refine ⟨members, comment, ?_, values, ?_, ?_⟩
  · cases chosen : config.enums with
    | union => exact absurd chosen style
    | typescript => exact .inl (within.subset (by simp [chosen, Model.exportedAs]))
    | javascript => exact .inr (within.subset (by simp [chosen, Model.exportedAs]))
  · intro member inside
    obtain ⟨value, listed, memberMade⟩ := Outcome.exists_item membersMade inside
    exact value.denotes_key (unnamed value listed) memberMade
  · obtain ⟨listing, listed⟩ := listed_of_mem_enums built mem
    obtain ⟨apart, enumerable⟩ := Schema.values_of_enumValues listed
    have names := nodup_memberNames_iff enumerable apart
    rwa [← values, List.map_map, List.pairwise_map] at names

/-- The members for a text, an integer, a fraction and a truth value, in an object. -/
theorem memberKeys_iff_clash_mixed :
    let document : Value := .map [(.text "swagger", "2.0"), (.text "definitions", .map [
      (.text "pet_status", .map [
        (.text "enum", .list ["a-b", .int 1, .float ⟨.finite false 3 (-1), by decide⟩, .bool true])])])]
    let config : Config := { enums := .javascript }
    ∃ client types e members comment, ofDocument document config = .ok client ∧ e ∈ client.enums ∧
      e.enumName = some "PetStatus" ∧ config.enums ≠ .union ∧
      (∀ value ∈ e.enum, value.customName.truthy = false) ∧
      client.typesFile config = .ok types ∧
      (.enum "PetStatus" members comment ∈ types.declarations ∨
        .constObject "PetStatus" members comment ∈ types.declarations) ∧
      (members.map fun member => member.value.memberName).Nodup := by
  intro document config
  obtain ⟨client, built, seen⟩ := Outcome.exists_of_any (x := ofDocument document config)
    (p := fun client => (client.typesFile config).toOption.any (fun _ => true) &&
      client.enums.any fun e => e.enumName == some "PetStatus" &&
        e.enum.all (fun value => !value.customName.truthy) &&
          decide ((e.enum.map EnumValue.value).Pairwise fun (v w : Value) => ¬ v.Clash w))
    (by decide +kernel)
  simp only [Bool.and_eq_true, List.any_eq_true, List.all_eq_true, beq_iff_eq, Bool.not_eq_true',
    decide_eq_true_iff] at seen
  obtain ⟨written, e, mem, ⟨exported, unnamed⟩, free⟩ := seen
  obtain ⟨types, made, -⟩ := Outcome.exists_of_any written
  obtain ⟨members, comment, declared, values, -, names⟩ :=
    memberKeys_iff_clash built mem exported (by decide) unnamed made
  refine ⟨client, types, e, members, comment, built, mem, exported, by decide, unnamed, made, declared,
    names.mpr ?_⟩
  rwa [← values, List.pairwise_map] at free

/-- A hyphen and an underscore make one key. -/
theorem not_nodup_memberKeys_hyphen :
    let document : Value := .map [(.text "swagger", "2.0"), (.text "definitions", .map [
      (.text "pet_status", .map [(.text "enum", .list ["foo-bar", "foo_bar"])])])]
    let config : Config := { enums := .typescript }
    ∃ client types a b comment, ofDocument document config = .ok client ∧ client.typesFile config = .ok types ∧
      .enum "PetStatus" [a, b] comment ∈ types.declarations ∧
      a.value = .text "foo-bar" ∧ b.value = .text "foo_bar" ∧ a.key = .text "FOO_BAR" ∧ b.key = .text "FOO_BAR" := by
  intro document config
  obtain ⟨client, built, seen⟩ := Outcome.exists_of_any (x := ofDocument document config)
    (p := fun client => (client.typesFile config).toOption.any (fun _ => true) &&
      client.enums.any fun e => e.enumName == some "PetStatus" &&
        (e.enum.mapM EnumValue.member).toOption.any fun members => members.length == 2 &&
          members[0]?.any (fun a => a.value == .text "foo-bar" && a.key == .text "FOO_BAR") &&
          members[1]?.any (fun b => b.value == .text "foo_bar" && b.key == .text "FOO_BAR"))
    (by decide +kernel)
  simp only [Bool.and_eq_true, List.any_eq_true, beq_iff_eq] at seen
  obtain ⟨written, e, mem, exported, seen⟩ := seen
  obtain ⟨types, made, -⟩ := Outcome.exists_of_any written
  obtain ⟨members, comment, membersMade, within⟩ := exists_exportedAs built mem exported made
  obtain ⟨_, same, seen⟩ := Outcome.exists_of_any seen
  cases membersMade.symm.trans same
  simp only [Bool.and_eq_true, beq_iff_eq] at seen
  obtain ⟨⟨two, seen⟩, also⟩ := seen
  obtain ⟨a, b, rfl⟩ := List.length_eq_two.mp two
  simp only [List.getElem?_cons_zero, List.getElem?_cons_succ, Option.any_some, Bool.and_eq_true,
    Value.beq_text] at seen also
  exact ⟨client, types, a, b, comment, built, made, within.subset (by simp [config, Model.exportedAs]),
    seen.1, also.1, seen.2, also.2⟩

end Client

end TypedClient
