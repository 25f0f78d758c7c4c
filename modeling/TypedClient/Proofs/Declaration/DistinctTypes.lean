import Mathlib.Data.List.Nodup
import Mathlib.Data.List.Perm.Basic
import TypedClient.Proofs.Declaration.TypeNames

/-! Enums as unions: whether a name of a type is declared twice for the models of a client. -/

namespace TypedClient

namespace Declaration

variable {ds : List Declaration} {names : List String}

/-- Every one of the declarations is that of a type. -/
def AllTypes (ds : List Declaration) : Prop :=
  ∀ d ∈ ds, d.typeName? ≠ none

/-- Declarations of types have just the names that are found among them. -/
theorem AllTypes.map_typeName (types : AllTypes ds) (named : ds.filterMap typeName? = names) :
    ds.map typeName? = names.map some := by
  subst named
  induction ds with
  | nil => rfl
  | cons d rest ih =>
    obtain ⟨name, found⟩ := Option.ne_none_iff_exists'.mp (types d List.mem_cons_self)
    have later := ih fun other mem => types other (List.mem_cons_of_mem _ mem)
    rw [List.filterMap_cons_some found, List.map_cons, List.map_cons, found, later]

end Declaration

namespace Model

open Declaration (AllTypes)

variable {m : Model} {ds : List Declaration}

/-- Whether the enum is exported on its own. -/
def isExported (m : Model) : Bool :=
  m.enumName.isSome

/-- With enums as unions, a model is declared by types only. -/
theorem allTypes_of_declarations (declared : m.declarations .union = .ok ds) : AllTypes ds := by
  -- Only another style has objects of values beside the types.
  refine forall_mem_declarations (fun _ named => named) (fun other => ?_) declared
  cases other

/-- As unions, enums are declared under the names of their models, if they are exported. -/
theorem flatMap_enumTypeNames_union (enums : List Model) :
    enums.flatMap (enumTypeNames .union) = (enums.filter isExported).map label := by
  induction enums with
  | nil => rfl
  | cons e rest ih =>
    rw [List.flatMap_cons, ih, enumTypeNames, List.filter_cons, isExported]
    cases e.enumName <;> rfl

/-- With enums as unions, a model is declared under its name if it is no enum, and each enum of it
under the name of the enum if that is exported. -/
theorem IsDeclarable.typeNames_union (declarable : m.IsDeclarable) :
    m.typeNames .union
      = (if m.isEnum then [] else [m.label]) ++ (m.namedEnums.filter isExported).map label := by
  rw [← flatMap_enumTypeNames_union]
  have within := declarable.within
  rw [typeNames, namedEnums, isEnum]
  cases kind : m.variant with
  | interface => simp
  | composition kind => simp
  | _ =>
    -- No other model has enums inside it.
    have none : m.enums = [] := by
      by_contra nested
      simpa [kind] using within nested
    simp [none]

end Model

namespace Client

variable {document : Value} {client : Client} {config : Config} {ds : List Declaration}

/-- No enum that is exported out of a model has the name of a model that is no enum. -/
def NestedApart (client : Client) : Prop :=
  ∀ m ∈ client.models, m.isEnum = false → ∀ owner ∈ client.models, ∀ e ∈ owner.enums,
    e.isExported = true → e.label ≠ m.label

/-- The names of the models that are no enums, and then those of the enums that are exported. -/
theorem typeNames_union_perm (built : ofDocument document config = .ok client) :
    (client.typeNames .union).Perm
      ((client.models.filter fun m => !m.isEnum).map Model.label
        ++ (client.enums.filter Model.isExported).map Model.label) := by
  have each : client.typeNames .union = client.models.flatMap fun m =>
      (if m.isEnum then [] else [m.label]) ++ (m.namedEnums.filter Model.isExported).map Model.label :=
    List.flatMap_congr fun m mem => (isDeclarable_of_ofDocument built m mem).typeNames_union
  -- Taken out of each model, the two kinds of names come one after the other.
  have others : (client.models.flatMap fun m => if m.isEnum then [] else [m.label])
      = (client.models.filter fun m => !m.isEnum).map Model.label := by
    induction client.models with
    | nil => rfl
    | cons m rest ih =>
      rw [List.flatMap_cons, ih, List.filter_cons]
      cases m.isEnum <;> rfl
  have enums : (client.models.flatMap fun m => (m.namedEnums.filter Model.isExported).map Model.label)
      = (client.enums.filter Model.isExported).map Model.label := by
    rw [enums, List.filter_flatMap, List.map_flatMap]
  rw [each, ← others, ← enums]
  exact (List.flatMap_append_perm ..).symm

/-- No two enums that are exported have the same name. -/
theorem nodup_exported (built : ofDocument document config = .ok client) :
    ((client.enums.filter Model.isExported).map Model.label).Nodup := by
  have named := named_enums built
  have distinct := named.nodup .nil
  rw [named.result_eq, List.nil_append] at distinct
  -- The exported name depends on the name alone, so it would be the same.
  suffices exported : client.enums.filterMap Model.enumName
      = ((client.enums.filter Model.isExported).map Model.label).map exportedEnumName by
    rw [exported] at distinct
    exact distinct.of_map
  have known : ∀ e ∈ client.enums, ∀ name, e.enumName = some name → name = exportedEnumName e.label :=
    fun e mem name => named.enumName_eq mem
  generalize client.enums = enums at known
  induction enums with
  | nil => rfl
  | cons e rest ih =>
    have later := ih fun other mem => known other (List.mem_cons_of_mem _ mem)
    cases given : e.enumName with
    | none => simp [given, later, Model.isExported]
    | some name =>
      have own := known e List.mem_cons_self name given
      simp [given, later, Model.isExported, own]

/-- With models of different names, a name is declared twice only for an enum inside a model and a
model that is no enum. -/
theorem nodup_typeNames_union_iff (built : ofDocument document config = .ok client)
    (distinct : (client.models.map Model.label).Nodup) :
    (client.typeNames .union).Nodup ↔ client.NestedApart := by
  have others : ((client.models.filter fun m => !m.isEnum).map Model.label).Nodup :=
    distinct.sublist (List.filter_sublist.map _)
  -- Neither kind of names has one twice, so only names of both kinds matter.
  rw [(typeNames_union_perm built).nodup_iff, List.nodup_append',
    and_iff_right others, and_iff_right (nodup_exported built)]
  constructor
  · intro apart m mem other owner inside e nested exported same
    have ofModel : m.label ∈ (client.models.filter fun m => !m.isEnum).map Model.label :=
      List.mem_map_of_mem (List.mem_filter.mpr ⟨mem, by simp [other]⟩)
    have isEnum : e ∈ client.enums :=
      List.mem_flatMap.mpr ⟨owner, inside, List.mem_append_right _ nested⟩
    exact apart ofModel (same ▸ List.mem_map_of_mem (List.mem_filter.mpr ⟨isEnum, exported⟩))
  · intro apart name ofModel ofEnum
    obtain ⟨m, mem, rfl⟩ := List.mem_map.mp ofModel
    obtain ⟨mem, other⟩ := List.mem_filter.mp mem
    obtain ⟨e, isEnum, same⟩ := List.mem_map.mp ofEnum
    obtain ⟨isEnum, exported⟩ := List.mem_filter.mp isEnum
    obtain ⟨owner, inside, mine⟩ := List.mem_flatMap.mp isEnum
    have other : m.isEnum = false := by simpa using other
    rcases List.mem_append.mp mine with own | nested
    · -- An enum that is a model itself has a name of its own.
      split at own
      · next ownerIsEnum =>
        rw [List.mem_singleton.mp own] at same
        have equal := List.inj_on_of_nodup_map distinct inside mem same
        rw [equal, other] at ownerIsEnum
        cases ownerIsEnum
      · cases own
    · exact apart m mem other owner inside e nested exported same

/-- What is tested of the client of a document and of the declarations of its models holds of those
that there are. -/
theorem exists_declarations_of_any (document : Value) (config : Config)
    {p : Client → List Declaration → Bool} (tested : (do
      let client ← ofDocument document config
      let declarations ← client.modelDeclarations config
      return (client, declarations) : Outcome _).toOption.any (fun made => p made.1 made.2) = true) :
    ∃ client declarations, ofDocument document config = .ok client ∧
      client.modelDeclarations config = .ok declarations ∧ p client declarations = true := by
  obtain ⟨⟨client, declarations⟩, done, holds⟩ := Outcome.exists_of_any tested
  simp only [Outcome.bind_eq_ok, Outcome.pure_eq_ok] at done
  obtain ⟨_, built, _, declared, same⟩ := done
  cases same
  exact ⟨client, declarations, built, declared, holds⟩

/--
With enums as unions, what is declared for models of different names is types of different names,
exactly if no enum that is exported out of a model has the name of a model that is no enum.
-/
theorem declared_once_iff_nestedApart (built : ofDocument document config = .ok client)
    (distinct : (client.models.map Model.label).Nodup) (style : config.enums = .union)
    (declared : client.modelDeclarations config = .ok ds) :
    ∃ names : List String, ds.map Declaration.typeName? = names.map some ∧
      (names.Nodup ↔ client.NestedApart) := by
  have named := typeNames_of_modelDeclarations declared
  rw [style] at named
  simp only [modelDeclarations, style, Outcome.bind_eq_ok, Outcome.pure_eq_ok] at declared
  obtain ⟨each, made, rfl⟩ := declared
  have types : Declaration.AllTypes each.flatten :=
    Outcome.forall_mem_flatten (fun _ _ => Model.allTypes_of_declarations) made
  exact ⟨_, types.map_typeName named, nodup_typeNames_union_iff built distinct⟩

/-- An enum inside a model whose name an enum has got, and one that is exported out of another model. -/
theorem declared_once_iff_nestedApart_refused :
    let enum (value : String) : Value := .map [(.text "enum", .list [.text value])]
    let owner (key : String) : Value := .map [(.text "properties", .map [(.text key, enum "a")])]
    let document : Value := .map [(.text "swagger", "2.0"), (.text "definitions", .map [
      (.text "PetStatus", enum "b"), (.text "Pet", owner "status"), (.text "Owner", owner "kind")])]
    ∃ client ds, ofDocument document {} = .ok client ∧ (client.models.map Model.label).Nodup ∧
      client.modelDeclarations {} = .ok ds ∧
      ds.map Declaration.typeName?
        = ["PetStatus", "Pet", "Owner", "OwnerKind"].map some ∧ client.NestedApart := by
  intro enum owner document
  obtain ⟨client, ds, built, declared, seen⟩ := exists_declarations_of_any document {}
    (p := fun client ds => decide (client.models.map Model.label).Nodup &&
      decide (ds.map Declaration.typeName? = ["PetStatus", "Pet", "Owner", "OwnerKind"].map some))
    (by decide +kernel)
  simp only [Bool.and_eq_true, decide_eq_true_eq] at seen
  obtain ⟨distinct, named⟩ := seen
  obtain ⟨names, listed, once⟩ := declared_once_iff_nestedApart built distinct rfl declared
  -- The names are those that are listed, and none of them stands there twice.
  have known : names = ["PetStatus", "Pet", "Owner", "OwnerKind"] :=
    List.map_injective_iff.mpr (fun _ _ => Option.some.inj) (listed.symm.trans named)
  exact ⟨client, ds, built, distinct, declared, named, once.mp (by rw [known]; decide)⟩

/-- An enum inside a model has the name of another model, and both are declared. -/
theorem declared_twice_of_nested :
    let document : Value := .map [(.text "swagger", "2.0"), (.text "definitions", .map [
      (.text "Pet", .map [(.text "properties", .map [
        (.text "status", .map [(.text "enum", .list [.text "a"])])])]),
      (.text "PetStatus", .map [(.text "type", "string")])])]
    ∃ client ds, ofDocument document {} = .ok client ∧ (client.models.map Model.label).Nodup ∧
      client.modelDeclarations {} = .ok ds ∧
      ds.map Declaration.typeName? = ["Pet", "PetStatus", "PetStatus"].map some ∧
      ¬ (ds.map Declaration.typeName?).Nodup := by
  intro document
  obtain ⟨client, ds, built, declared, seen⟩ := exists_declarations_of_any document {}
    (p := fun client ds => decide (client.models.map Model.label).Nodup &&
      decide (ds.map Declaration.typeName? = ["Pet", "PetStatus", "PetStatus"].map some))
    (by decide +kernel)
  simp only [Bool.and_eq_true, decide_eq_true_eq] at seen
  obtain ⟨distinct, named⟩ := seen
  exact ⟨client, ds, built, distinct, declared, named, by rw [named]; decide⟩

end Client

end TypedClient
