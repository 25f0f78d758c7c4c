import TypedClient.Proofs.Declaration.Arrays
import TypedClient.Proofs.Schema.Nullable
import TypedClient.Proofs.TypeScript.TypeRoundTrip

/-! The properties that stand beside the alternatives of a composition, and where its type has them. -/

namespace TypedClient

namespace TypeExpr

/-- The alternatives of a type but null. -/
def besideNull (type : TypeExpr) : List TypeExpr :=
  type.alternatives.filter fun t => !t.same null

/-- What is told holds of a part of the type. -/
def Includes (P : TypeExpr → Prop) (type : TypeExpr) : Prop :=
  ∃ part ∈ type.parts, P part

/-- The type has alternatives beside null, and each of them includes what is told. -/
structure Carries (P : TypeExpr → Prop) (type : TypeExpr) : Prop where
  some : type.besideNull ≠ []
  each : ∀ t ∈ type.besideNull, t.Includes P

/-- The type is the given one, or counts as equal to it, as a literal one does to a literal true. -/
def StandsFor (own type : TypeExpr) : Prop :=
  type = own ∨ type.same own = true

variable {P : TypeExpr → Prop} {type own : TypeExpr} {types : List TypeExpr}

/-- Null is no alternative, so allowing it changes none of them. -/
@[simp] theorem besideNull_nullable (type : TypeExpr) (isNullable : Bool) :
    (type.nullable isNullable).besideNull = type.besideNull := by
  have dropped (types : List TypeExpr) : (types ++ [null]).filter (fun t => !t.same null)
      = types.filter fun t => !t.same null := by
    rw [List.filter_append]
    exact List.append_nil _
  cases isNullable with
  | false => rfl
  | true =>
    cases type with
    | union types =>
      simp only [nullable, if_true, orNull]
      split
      · rfl
      · exact dropped types
    | _ =>
      -- A type that is no union is left as it is, or becomes a union with null.
      simp only [nullable, if_true, orNull]
      split
      · rfl
      · exact dropped [_]

/-- Null beside a type makes no difference to what it carries. -/
@[simp] theorem carries_nullable {isNullable : Bool} : (type.nullable isNullable).Carries P ↔ type.Carries P := by
  have same := besideNull_nullable type isNullable
  exact ⟨fun ⟨kept, each⟩ => ⟨same ▸ kept, same ▸ each⟩,
    fun ⟨kept, each⟩ => ⟨same.symm ▸ kept, same.symm ▸ each⟩⟩

/-- Only an object counts as equal to an object. -/
theorem exists_object_of_standsFor {members : List (Member TypeExpr)}
    (stands : StandsFor (.object members) type) : ∃ own, type = .object own := by
  obtain rfl | equal := stands
  · exact ⟨_, rfl⟩
  · cases type <;> simp_all [same]

/-- An object is its only part. -/
theorem includes_of_object (objects : ∀ t, P t → ∃ own, t = .object own) (holds : P type) :
    type.Includes P := by
  obtain ⟨own, rfl⟩ := objects type holds
  exact ⟨_, List.mem_cons_self, holds⟩

/-- What includes an object is neither null nor a union, so it is its only alternative. -/
theorem besideNull_of_includes (objects : ∀ t, P t → ∃ own, t = .object own)
    (includes : type.Includes P) : type.besideNull = [type] := by
  obtain ⟨part, mem, holds⟩ := includes
  obtain ⟨own, rfl⟩ := objects part holds
  cases type with
  | intersection parts => rfl
  | _ =>
    rw [← List.mem_singleton.mp mem]
    rfl

/-- What includes an object carries it. -/
theorem Includes.carries (objects : ∀ t, P t → ∃ own, t = .object own) (includes : type.Includes P) :
    type.Carries P := by
  have alone := besideNull_of_includes objects includes
  exact ⟨by simp [alone], by simpa [alone] using includes⟩

/-- A further type is kept unless one that was kept before is equal to it. -/
theorem distinct_concat (types : List TypeExpr) (type : TypeExpr) :
    distinct (types ++ [type])
      = if (distinct types).any (·.same type) then distinct types else distinct types ++ [type] :=
  List.foldl_append

/-- The last of several types is kept, or one that counts as equal to it is. -/
theorem exists_mem_distinct_concat (own_holds : P own)
    (equal_holds : ∀ t ∈ types, t.same own = true → P t) : ∃ t ∈ distinct (types ++ [own]), P t := by
  rw [distinct_concat]
  split
  · next known =>
    obtain ⟨t, kept, equal⟩ := List.any_eq_true.mp known
    exact ⟨t, kept, equal_holds t ((foldl_keep_sublist TypeExpr.same types).subset kept) equal⟩
  · exact ⟨own, by simp, own_holds⟩

/-- The first of several types is always kept. -/
theorem distinct_ne_nil (some : types ≠ []) : distinct types ≠ [] := by
  induction types using List.reverseRecOn with
  | nil => exact absurd rfl some
  | append_singleton types t ih =>
    rw [distinct_concat]
    split
    · next known =>
      -- Something that the last type is equal to was kept before.
      obtain ⟨t, kept, -⟩ := List.any_eq_true.mp known
      exact List.ne_nil_of_mem kept
    · simp

/-- An intersection includes what is told of one of the types that are kept for it. -/
theorem includes_combine_allOf (objects : ∀ t, P t → ∃ own, t = .object own)
    (kept : ∃ t ∈ distinct types, P t) : (Composition.allOf.combine types).Includes P := by
  obtain ⟨t, mem, holds⟩ := kept
  unfold Composition.combine
  generalize distinct types = left at mem
  match left, mem with
  | [only], mem =>
    rw [List.mem_singleton.mp mem] at holds
    exact includes_of_object objects holds
  | first :: second :: rest, mem => exact ⟨t, mem, holds⟩

/-- A union carries what all of its types include. -/
theorem carries_combine {kind : Composition} (objects : ∀ t, P t → ∃ own, t = .object own)
    (union : kind ≠ .allOf) (some : types ≠ []) (each : ∀ t ∈ types, t.Includes P) :
    (kind.combine types).Carries P := by
  have kept : ∀ t ∈ distinct types, t.Includes P :=
    fun t mem => each t ((foldl_keep_sublist TypeExpr.same types).subset mem)
  have left_some := distinct_ne_nil some
  unfold Composition.combine
  generalize distinct types = left at kept left_some
  match left, kept, left_some with
  | [only], kept, _ => exact (kept only List.mem_cons_self).carries objects
  | first :: second :: rest, kept, _ =>
    -- None of the types is null, so all of them are alternatives.
    have all : (TypeExpr.union (first :: second :: rest)).besideNull = first :: second :: rest := by
      refine List.filter_eq_self.mpr fun t mem => ?_
      have alone := besideNull_of_includes objects (kept t mem)
      refine Bool.not_eq_true' _ ▸ Bool.eq_false_iff.mpr fun equal => ?_
      cases same_null.mp equal
      cases alone
    simp only [if_neg union]
    exact ⟨by simp [all], by simpa only [all] using kept⟩

/-- A type that stands for no schema carries no object. -/
theorem not_carries_unknown (objects : ∀ t, P t → ∃ own, t = .object own) :
    ¬ TypeExpr.unknown.Carries P := by
  rintro ⟨-, each⟩
  obtain ⟨part, mem, holds⟩ := each .unknown List.mem_cons_self
  obtain ⟨own, rfl⟩ := objects part holds
  cases List.mem_singleton.mp mem

/-- The type of a composition of the given types that share a further one. -/
def sharing (kind : Composition) (own : TypeExpr) (types : List TypeExpr) : TypeExpr :=
  kind.combine <|
    if kind = .allOf then types ++ [own] else types.map fun t => Composition.allOf.combine [t, own]

/-- A composition carries the type that is shared unless it is a union of nothing. -/
theorem carries_sharing_iff {kind : Composition} (objects : ∀ t, P t → ∃ own, t = .object own)
    (own_holds : P own) (equal_holds : ∀ t ∈ types, t.same own = true → P t) :
    (sharing kind own types).Carries P ↔ kind = .allOf ∨ types ≠ [] := by
  unfold sharing
  by_cases intersection : kind = .allOf
  · -- In an intersection the shared type is kept, or one that counts as equal to it.
    subst intersection
    refine iff_of_true ?_ (.inl rfl)
    exact (includes_combine_allOf objects (exists_mem_distinct_concat own_holds equal_holds)).carries objects
  · simp only [intersection, if_false, false_or]
    constructor
    · rintro carries rfl
      exact not_carries_unknown objects carries
    · -- In a union each alternative is an intersection with the shared type.
      intro some
      refine carries_combine objects intersection (by simpa using some) fun t mem => ?_
      obtain ⟨alternative, inside, rfl⟩ := List.mem_map.mp mem
      have equal : ∀ t ∈ [alternative], t.same own = true → P t :=
        fun t mem => equal_holds t (List.mem_singleton.mp mem ▸ inside)
      exact includes_combine_allOf objects (exists_mem_distinct_concat own_holds equal)

end TypeExpr

namespace Model

/-- A member has the name of its property. -/
theorem name_of_signature {property : Model} {member : Member TypeExpr}
    (made : property.signature = .ok member) : member.name = property.name := by
  obtain ⟨type, -, made⟩ := Outcome.bind_eq_ok.mp made
  rw [Model.member] at made
  split at made
  · cases made
    rfl
  · obtain ⟨lines, -, made⟩ := Outcome.bind_eq_ok.mp made
    cases made
    rfl

/-- The type of a composition combines the types of its parts. -/
theorem typeExpr_of_composition {m : Model} {kind : Composition} {types : List TypeExpr}
    (composed : m.variant = .composition kind) (found : m.properties.mapM typeExpr = .ok types) :
    m.typeExpr = .ok ((kind.combine types).nullable m.isNullable) := by
  cases m
  cases composed
  rw [← typeExprs_eq] at found
  simp [typeExpr, found]

/-- The type of an object with properties has the members for them. -/
theorem typeExpr_of_interface {m : Model} {own : List (Member TypeExpr)} (object : m.variant = .interface)
    (some : m.properties ≠ []) (found : m.properties.mapM signature = .ok own) :
    m.typeExpr = .ok ((TypeExpr.object own).nullable m.isNullable) := by
  cases m
  cases object
  rw [← members_eq] at found
  simp [typeExpr, List.isEmpty_eq_false_iff.mpr some, found]

end Model

namespace Schema

variable {inner : Resolver} {members : Members} {m : Model}

/-- What resolves the properties of a schema faithfully can be replaced by the resolver itself. -/
theorem properties_resolve {models : List Model}
    (faithful : ∀ {name part m}, inner name part = .ok m → resolve name part = .ok m)
    (made : properties inner members = .ok models) : properties resolve members = .ok models := by
  simp only [properties, Outcome.bind_eq_ok, Outcome.mapM_eq_ok] at made ⊢
  obtain ⟨required, asked, declared, found, each⟩ := made
  refine ⟨required, asked, declared, found, each.imp fun entry m made => ?_⟩
  -- Only the step that resolves the schema of a property depends on the resolver.
  obtain ⟨isReference, mentioned, made⟩ := Outcome.bind_eq_ok.mp made
  refine Outcome.bind_eq_ok.mpr ⟨isReference, mentioned, ?_⟩
  cases isReference with
  | true => exact made
  | false =>
    obtain ⟨model, resolved, rest⟩ := Outcome.bind_eq_ok.mp made
    exact Outcome.bind_eq_ok.mpr ⟨model, faithful resolved, rest⟩

/-- An object of the properties that are declared beside the alternatives of a composition. -/
structure IsShared (declared : List Model) (shared : Model) : Prop where
  variant : shared.variant = .interface
  properties : shared.properties = declared
  isNullable : shared.isNullable = false

/-- The parts of a composition with properties beside its alternatives: those that contribute, and an object
of the properties, which is one more part of an intersection and in each part of a union. -/
structure SharesProperties (kind : Composition) (parts : List Value) (declared : List Model) (m : Model)
    (models : List Model) (shared : Model) : Prop where
  each : List.Forall₂ (fun part model => resolve (.text "") part = .ok model)
    (parts.filter contributes) models
  object : IsShared declared shared
  variant : m.variant = .composition kind
  properties : m.properties = if kind = .allOf then models ++ [shared] else models.map (sharing shared)

/-- The model of a composition shares the properties beside its alternatives. -/
theorem exists_sharesProperties {kind : Composition} {alternatives name : Value}
    (resolved : resolve name (.map members) = .ok m)
    (form : Form.of members = .composition kind alternatives)
    (given : (members.get "properties").truthy = true) :
    ∃ parts declared models shared, alternatives.elements = .ok parts ∧
      properties resolve members = .ok declared ∧
      SharesProperties kind parts declared m models shared := by
  obtain ⟨_, inner, same, made, within⟩ := resolve_eq_ok resolved
  cases same
  have faithful {name part m} (inside : inner name part = .ok m) : resolve name part = .ok m :=
    (within inside).2
  rw [form] at made
  obtain ⟨parts, models, hasNull, listed, found, beside⟩ := composition_eq_ok made
  -- There are properties beside the alternatives, which leaves one way to go on.
  obtain ⟨absent, -⟩ | ⟨-, declared, shared, declaredMade, sharedMade, rfl⟩ := beside
  · cases given.symm.trans absent
  · obtain ⟨enums, -, rfl⟩ := withProperties_eq_ok.mp sharedMade
    have each := (branches_eq_ok faithful found).1.imp fun _ _ inside => faithful inside
    exact ⟨parts, declared, models, _, listed, properties_resolve faithful declaredMade,
      each, ⟨rfl, rfl, rfl⟩, rfl, rfl⟩

variable {kind : Composition} {parts : List Value} {declared models : List Model} {shared : Model}
  {own : List (Member TypeExpr)} {types : List TypeExpr}

/-- The type of a composition that shares properties, made of the types of its alternatives and of the
members for the properties. -/
theorem SharesProperties.typeExpr_eq (shares : SharesProperties kind parts declared m models shared)
    (some : declared ≠ []) (signed : declared.mapM Model.signature = .ok own)
    (typed : models.mapM Model.typeExpr = .ok types) :
    m.typeExpr = .ok ((TypeExpr.sharing kind (.object own) types).nullable m.isNullable) := by
  have ofShared : shared.typeExpr = .ok (.object own) := by
    rw [Model.typeExpr_of_interface shares.object.variant (by rwa [shares.object.properties])
      (by rwa [shares.object.properties]), shares.object.isNullable]
    rfl
  refine Model.typeExpr_of_composition shares.variant ?_
  rw [shares.properties, Outcome.mapM_eq_ok]
  rw [Outcome.mapM_eq_ok] at typed
  split
  · exact List.rel_append typed (.cons ofShared .nil)
  · -- Each alternative is put into an intersection with the object of the properties.
    refine List.forall₂_map_left_iff.mpr (List.forall₂_map_right_iff.mpr (typed.imp fun model t found => ?_))
    have both : (sharing shared model).properties.mapM Model.typeExpr = .ok [t, .object own] := by
      rw [sharing, shared.copy_eq]
      exact Outcome.mapM_eq_ok.mpr (.cons found (.cons ofShared .nil))
    exact Model.typeExpr_of_composition rfl both

/-- Properties have members under their keys if all that is said about them can be written. -/
theorem exists_signatures (made : properties resolve members = .ok declared)
    (described : ∀ p ∈ declared, ∀ n, p.HasNode n → n.IsDescribed) :
    ∃ own, declared.mapM Model.signature = .ok own ∧
      own.map (·.name) = (declaredProperties members).map fun entry => .scalar entry.1 := by
  obtain ⟨required, each⟩ := properties_eq_ok made
  have keys := Outcome.map_of_mapM (fun entry => Value.scalar entry.1) Model.name
    (Outcome.mapM_eq_ok.mpr each) fun entry p found => (keepsNull_of_property id found).named
  obtain ⟨own, signed⟩ := Outcome.exists_mapM (f := Model.signature) fun p mem =>
    have ⟨_, _, found⟩ := Outcome.exists_related each.flip mem
    (keepsNull_of_property id found).written (described p mem)
  refine ⟨own, signed, ?_⟩
  rw [Outcome.map_of_mapM Model.name (·.name) signed fun p member => Model.name_of_signature, keys]

/-- A resolved schema stands for a type if all that is said about it can be written. -/
theorem exists_typeExpr_of_resolve {name schema : Value} (resolved : resolve name schema = .ok m)
    (described : ∀ n, m.HasNode n → n.IsDescribed) : ∃ type, m.typeExpr = .ok type := by
  refine Model.exists_typeExpr m fun n node => ⟨described n node, fun kind untyped => ?_⟩
  -- A node that is made of a schema fits its kind, and none fits one that stands for no type.
  have fits := (allShaped_of_resolve resolved n node).fits
  rwa [Model.FitsKind, untyped] at fits

/-- What is in the tree of an alternative is in that of the composition. -/
theorem SharesProperties.hasNode (shares : SharesProperties kind parts declared m models shared)
    {model n : Model} (mem : model ∈ models) (node : model.HasNode n) : m.HasNode n := by
  by_cases intersection : kind = .allOf
  · refine .ofProperty (p := model) ?_ node
    rw [shares.properties, if_pos intersection]
    exact List.mem_append_left _ mem
  · -- An alternative of a union is the first part of the intersection that it is put into.
    refine .ofProperty (p := sharing shared model) ?_ (.ofProperty List.mem_cons_self node)
    rw [shares.properties, if_neg intersection]
    exact List.mem_map_of_mem mem

/-- The alternatives of a composition have types if all that is said about it can be written. -/
theorem SharesProperties.exists_types (shares : SharesProperties kind parts declared m models shared)
    (described : ∀ n, m.HasNode n → n.IsDescribed) :
    ∃ types, models.mapM Model.typeExpr = .ok types ∧
      List.Forall₂ (fun part type => ∃ model, resolve (.text "") part = .ok model ∧
        model.typeExpr = .ok type) (parts.filter contributes) types := by
  obtain ⟨types, typed⟩ := Outcome.exists_mapM (f := Model.typeExpr) fun model mem =>
    have ⟨_, _, resolved⟩ := Outcome.exists_related shares.each.flip mem
    exists_typeExpr_of_resolve resolved fun n node => described n (shares.hasNode mem node)
  exact ⟨types, typed, Outcome.related_of_mapM shares.each typed⟩

/-- The type of a composition has the members for all properties beside its alternatives, in each alternative
of a union as in an intersection, exactly if it is an intersection or at least one of its alternatives allows
something other than null and is not empty. -/
theorem carries_iff_of_model {name default alternatives : Value} {isDefinition : Bool}
    (made : model (.map members) isDefinition name default = .ok m)
    (form : Form.of members = .composition kind alternatives)
    (given : (members.get "properties").truthy = true)
    (listed : properties resolve members = .ok declared)
    (described : ∀ n, (m.HasNode n ∨ ∃ p ∈ declared, p.HasNode n) → n.IsDescribed) :
    ∃ parts own type, alternatives.elements = .ok parts ∧
      declared.mapM Model.signature = .ok own ∧
      own.map (·.name) = (declaredProperties members).map (fun entry => .scalar entry.1) ∧
      m.typeExpr = .ok type ∧
      let kept := kind = .allOf ∨ ∃ part ∈ parts, contributes part = true
      (type.Carries (TypeExpr.StandsFor (.object own)) ↔ kept) ∧
      ((∀ part ∈ parts, ∀ alternative t, resolve (.text "") part = .ok alternative →
          alternative.typeExpr = .ok t → TypeExpr.StandsFor (.object own) t → t = .object own) →
        (type.Carries (· = .object own) ↔ kept)) := by
  obtain ⟨bare, fallback, resolved, rfl⟩ := model_eq_ok made
  obtain ⟨parts, _, models, shared, elements, found, shares⟩ := exists_sharesProperties resolved form given
  cases listed.symm.trans found
  -- Being declared and having a default make no difference to what a model is made of.
  have shares : SharesProperties kind parts declared { bare with isDefinition, default := fallback } models
      shared := ⟨shares.each, shares.object, shares.variant, shares.properties⟩
  obtain ⟨own, signed, named⟩ :=
    exists_signatures listed fun p mem n node => described n (.inr ⟨p, mem, node⟩)
  obtain ⟨types, typed, each⟩ := shares.exists_types fun n node => described n (.inl node)
  refine ⟨parts, own, _, elements, signed, named,
    shares.typeExpr_eq (properties_ne_nil listed given) signed typed, ?_⟩
  -- There are as many types as alternatives that contribute.
  have some : types ≠ [] ↔ ∃ part ∈ parts, contributes part = true := by
    rw [← List.length_pos_iff, ← each.length_eq, List.length_pos_iff, ne_eq, List.filter_eq_nil_iff]
    simp
  simp only [TypeExpr.carries_nullable, ← some]
  constructor
  · exact TypeExpr.carries_sharing_iff (fun t => TypeExpr.exists_object_of_standsFor) (.inl rfl)
      fun t mem equal => .inr equal
  · intro apart
    refine TypeExpr.carries_sharing_iff (fun t same => ⟨own, same⟩) rfl fun t mem equal => ?_
    obtain ⟨part, inside, model, resolved, typed⟩ := Outcome.exists_related each.flip mem
    exact apart part (List.mem_filter.mp inside).1 model t resolved typed (.inr equal)

/-- A union of two objects, one of null and one of anything, with a property beside them. -/
theorem carries_iff_of_model_shared :
    let members : Members := [
      (.text "oneOf", .list [
        .map [(.text "$ref", "#/components/schemas/Cat")], .map [(.text "type", "null")],
        .map [(.text "$ref", "#/components/schemas/Dog")], .map []]),
      (.text "properties", .map [(.text "name", .map [(.text "type", "string")])])]
    ∃ m own type, model (.map members) true (.text "Named") .null = .ok m ∧
      own.map (·.name) = [.text "name"] ∧ m.typeExpr = .ok type ∧
      type.Carries (TypeExpr.StandsFor (.object own)) := by
  intro members
  obtain ⟨m, made, seen⟩ := Outcome.exists_of_any (x := model (.map members) true (.text "Named") .null)
    (p := fun m => m.everyNode fun n => decide n.IsDescribed) (by decide +kernel)
  obtain ⟨declared, listed, all⟩ := Outcome.exists_of_any (x := properties resolve members)
    (p := fun models => models.all fun p => p.everyNode fun n => decide n.IsDescribed) (by decide +kernel)
  have described : ∀ n, (m.HasNode n ∨ ∃ p ∈ declared, p.HasNode n) → n.IsDescribed := by
    rintro n (node | ⟨p, mem, node⟩)
    · exact of_decide_eq_true (node.tested seen)
    · exact of_decide_eq_true (node.tested (List.all_eq_true.mp all p mem))
  obtain ⟨parts, own, type, elements, -, named, typed, iff, -⟩ :=
    carries_iff_of_model made rfl rfl listed described
  -- The reference to a cat adds to the type.
  have cat : Value.map [(.text "$ref", "#/components/schemas/Cat")] ∈ parts := by
    rw [← Except.ok.inj elements]
    exact List.mem_cons_self
  exact ⟨m, own, type, made, named, typed, iff.mpr (.inr ⟨_, cat, by decide⟩)⟩

/-- A union whose alternatives only ask for properties to be there is written without any of these. -/
theorem not_carries_of_required :
    let require (key : String) : Value := .map [(.text "required", .list [.text key])]
    let text : Value := .map [(.text "type", "string")]
    let members : Members := [
      (.text "properties", .map [(.text "email", text), (.text "phone", text)]),
      (.text "anyOf", .list [require "email", require "phone"])]
    ∃ m declared own type, model (.map members) false (.text "") .null = .ok m ∧
      (members.get "properties").truthy = true ∧ properties resolve members = .ok declared ∧
      declared.mapM Model.signature = .ok own ∧ m.typeExpr = .ok type ∧
      printType type 0 = .ok "unknown" ∧ ¬ type.Carries (TypeExpr.StandsFor (.object own)) := by
  intro require text members
  obtain ⟨m, made, seen⟩ := Outcome.exists_of_any (x := model (.map members) false (.text "") .null)
    (p := fun m => m.variant matches .composition .anyOf && m.properties.isEmpty && !m.isNullable)
    (by decide +kernel)
  obtain ⟨own, signed, -⟩ := Outcome.exists_of_any
    (x := properties resolve members >>= fun declared => declared.mapM Model.signature)
    (p := fun _ => true) (by decide +kernel)
  obtain ⟨declared, listed, signed⟩ := Outcome.bind_eq_ok.mp signed
  simp only [Bool.and_eq_true, List.isEmpty_iff, Bool.not_eq_true'] at seen
  obtain ⟨⟨composed, none⟩, closed⟩ := seen
  have variant : m.variant = .composition .anyOf := by
    split at composed
    · assumption
    · cases composed
  -- No alternative is left, so nothing is combined.
  have untyped : m.properties.mapM Model.typeExpr = .ok [] := by
    rw [none]
    rfl
  have typed := Model.typeExpr_of_composition variant untyped
  rw [closed] at typed
  exact ⟨m, declared, own, _, made, rfl, listed, signed, typed, rfl,
    TypeExpr.not_carries_unknown fun t => TypeExpr.exists_object_of_standsFor⟩

end Schema

end TypedClient
