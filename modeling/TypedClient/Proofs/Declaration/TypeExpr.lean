import TypedClient.Declaration.TypeExpr
import TypedClient.Proofs.Schema.Shape
import TypedClient.Proofs.Value.Equality

/-! Which models have a type expression, and when null is among the values of one. -/

namespace TypedClient

namespace TypeExpr

/-- Null is among the values of the type: it is null, or a union that has null beside others. -/
def AdmitsNull (type : TypeExpr) : Prop :=
  type = .null ∨ ∃ types, type = .union types ∧ .null ∈ types

/-- No other type is equal to null. -/
theorem same_null {type : TypeExpr} : type.same .null = true ↔ type = .null := by
  -- Null is a reference without arguments, so only a reference can be equal to it.
  cases type with
  | reference name arguments => cases arguments <;> simp [null, same, sameAll]
  | _ => simp [null, same]

/-- A type that null is added to admits it, whether it did before or not. -/
theorem admitsNull_orNull (type : TypeExpr) : type.orNull.AdmitsNull := by
  cases type with
  | union types =>
    rw [orNull]
    split
    · next among =>
      -- The union has null already.
      obtain ⟨t, mem, equal⟩ := List.any_eq_true.mp among
      rw [same_null.mp equal] at mem
      exact .inr ⟨types, rfl, mem⟩
    · exact .inr ⟨_, rfl, by simp⟩
  | _ =>
    -- A type that is no union either is null or becomes a union with it.
    simp only [orNull]
    split
    · next equal => exact .inl (same_null.mp equal)
    · exact .inr ⟨_, rfl, by simp⟩

end TypeExpr

namespace Model

variable {m : Model} {type : TypeExpr}

/-- Whatever a model stands for, its type admits null if the model allows it. -/
theorem admitsNull_of_typeExpr (nullable : m.isNullable = true) (made : m.typeExpr = .ok type) :
    type.AdmitsNull := by
  have added : ∃ bare : TypeExpr, type = bare.nullable m.isNullable := by
    cases m
    simp only [typeExpr] at made
    -- Each kind builds a type of its own, and null is added to all of them in the same way.
    split at made
    · split at made <;> simp only [Outcome.bind_eq_ok, Outcome.pure_eq_ok] at made <;> grind
    all_goals
      simp only [Outcome.bind_eq_ok, Outcome.pure_eq_ok] at made
      grind
  obtain ⟨bare, rfl⟩ := added
  rw [nullable]
  exact TypeExpr.admitsNull_orNull bare

/-- The type of an object is made up of the members for its properties, if there are any. -/
theorem members_of_typeExpr (kind : m.variant = .interface) (some : m.properties ≠ [])
    (made : m.typeExpr = .ok type) :
    ∃ own, members m.properties = .ok own ∧ type = (TypeExpr.object own).nullable m.isNullable := by
  cases m
  cases kind
  -- Only an object without properties is written without members.
  simp only [typeExpr, List.isEmpty_eq_false_iff.mpr some, Bool.false_eq_true, if_false,
    Outcome.bind_eq_ok, Outcome.pure_eq_ok] at made
  obtain ⟨own, written, _, rfl, rfl⟩ := made
  exact ⟨own, written, rfl⟩

/-- What the document says about the model can be written: it is a text, or counts as nothing. -/
def IsDescribed (m : Model) : Prop :=
  m.description.truthy = true → ∃ s, m.description = .text s

instance (m : Model) : Decidable m.IsDescribed :=
  decidable_of_iff (m.description.truthy = false ∨ m.description matches .text _) <| by
    unfold IsDescribed
    cases m.description with
    | scalar s => cases s <;> simp
    | _ => simp

/-- A model has a comment if what the document says about it can be written. -/
theorem exists_comment (described : m.IsDescribed) : ∃ lines, m.comment = .ok lines := by
  have written : ∃ s, commentText m.description = .ok s := by
    rw [commentText]
    split
    · next given =>
      obtain ⟨s, text⟩ := described given
      exact ⟨escapeComment s, by rw [text]; rfl⟩
    · exact ⟨"", rfl⟩
  obtain ⟨s, written⟩ := written
  exact ⟨_, by rw [comment, written]; rfl⟩

/-- The member of an object type that stands for a property. -/
def signature (property : Model) : Outcome (Member TypeExpr) := do
  property.member (← property.typeExpr)

/-- The members that stand for properties are those of each of them. -/
theorem members_eq (properties : List Model) : members properties = properties.mapM signature := by
  induction properties with
  | nil => rfl
  | cons property rest ih => simp [members, signature, ih]

/-- Only a member for further keys has another type than its property. -/
theorem type_of_member {member : Member TypeExpr} (named : m.name ≠ .text Schema.indexSignature)
    (made : m.member type = .ok member) : member.name = m.name ∧ member.type = type := by
  rw [Model.member, if_neg (by simpa [Value.beq_text] using named)] at made
  simp only [Outcome.bind_eq_ok, Outcome.pure_eq_ok] at made
  obtain ⟨lines, -, rfl⟩ := made
  exact ⟨rfl, rfl⟩

/-- A property has a member if it has a type and can be described. -/
theorem exists_member (described : m.IsDescribed) (type : TypeExpr) :
    ∃ member, m.member type = .ok member := by
  rw [Model.member]
  split
  · -- A member for further keys has no comment.
    exact ⟨_, rfl⟩
  · obtain ⟨lines, written⟩ := exists_comment described
    exact ⟨_, by rw [written]; rfl⟩

/-- Every model that is found in the tree stands for a type and can be described. -/
def IsTypable (m : Model) : Prop :=
  ∀ n, m.HasNode n → n.IsDescribed ∧ ∀ kind, n.variant ≠ .untyped kind

mutual

/-- Whether a test holds of every model that is found in the tree. -/
def everyNode (test : Model → Bool) : Model → Bool
  | m@{ properties, enums, link, .. } =>
    test m && everyNodeOf test properties && everyNodeOf test enums && everyNodeLinked test link

/-- Whether a test holds of every model that is found in one of the trees. -/
def everyNodeOf (test : Model → Bool) : List Model → Bool
  | [] => true
  | m :: rest => m.everyNode test && everyNodeOf test rest

/-- Whether a test holds of every model that is found in the tree that is linked to. -/
def everyNodeLinked (test : Model → Bool) : Option Model → Bool
  | none => true
  | some m => m.everyNode test

end

/-- A test of all trees is one of each tree. -/
theorem everyNodeOf_eq (test : Model → Bool) (models : List Model) :
    everyNodeOf test models = models.all (everyNode test) := by
  induction models with
  | nil => rfl
  | cons m rest ih => rw [everyNodeOf, ih, List.all_cons]

/-- What is tested of all nodes is tested of the model and of all that it holds. -/
theorem everyNode_eq_true {test : Model → Bool} : m.everyNode test = true ↔
    test m = true ∧ (∀ p ∈ m.properties, p.everyNode test = true) ∧
      (∀ e ∈ m.enums, e.everyNode test = true) ∧ ∀ l, m.link = some l → l.everyNode test = true := by
  have linked (link : Option Model) :
      everyNodeLinked test link = true ↔ ∀ l, link = some l → l.everyNode test = true := by
    cases link <;> simp [everyNodeLinked]
  cases m
  simp [everyNode, everyNodeOf_eq, linked, and_assoc]

/-- What is tested of all nodes holds of each of them. -/
theorem HasNode.tested {n : Model} {test : Model → Bool} (node : m.HasNode n)
    (all : m.everyNode test = true) : test n = true := by
  induction node with
  | self m => exact (everyNode_eq_true.mp all).1
  | ofProperty mem _ ih => exact ih ((everyNode_eq_true.mp all).2.1 _ mem)
  | ofEnum mem _ ih => exact ih ((everyNode_eq_true.mp all).2.2.1 _ mem)
  | ofLink linked _ ih => exact ih ((everyNode_eq_true.mp all).2.2.2 _ linked)

/-- A property of a typable model is typable. -/
theorem IsTypable.property {p : Model} (typable : m.IsTypable) (mem : p ∈ m.properties) : p.IsTypable :=
  fun n node => typable n (.ofProperty mem node)

/-- What a typable model is linked to is typable. -/
theorem IsTypable.link {l : Model} (typable : m.IsTypable) (linked : m.link = some l) : l.IsTypable :=
  fun n node => typable n (.ofLink linked node)

mutual

/-- A typable model has a type expression. -/
theorem exists_typeExpr : (m : Model) → m.IsTypable → ∃ type, m.typeExpr = .ok type
  | { variant, type, isNullable, properties, enum, link, .. }, typable => by
    simp only [typeExpr]
    -- Only the parts of a model can keep it from having a type.
    cases variant with
    | interface =>
      dsimp only
      split
      · exact ⟨_, rfl⟩
      · obtain ⟨own, made⟩ := exists_members properties fun p mem => typable.property mem
        exact ⟨_, by rw [made]; rfl⟩
    | composition kind =>
      obtain ⟨types, made⟩ := exists_typeExprs properties fun p mem => typable.property mem
      exact ⟨_, by rw [made]; rfl⟩
    | array =>
      obtain ⟨item, made⟩ := exists_linkExpr type link fun l linked => typable.link linked
      exact ⟨_, by rw [made]; rfl⟩
    | dictionary =>
      obtain ⟨item, made⟩ := exists_linkExpr type link fun l linked => typable.link linked
      exact ⟨_, by rw [made]; rfl⟩
    | untyped kind => exact absurd rfl ((typable _ (.self _)).2 kind)
    | _ => exact ⟨_, rfl⟩

/-- Typable models have type expressions. -/
theorem exists_typeExprs : (models : List Model) → (∀ m ∈ models, m.IsTypable) →
    ∃ types, typeExprs models = .ok types
  | [], _ => ⟨[], rfl⟩
  | m :: rest, typable => by
    obtain ⟨type, made⟩ := exists_typeExpr m (typable m List.mem_cons_self)
    obtain ⟨types, others⟩ := exists_typeExprs rest fun p mem => typable p (List.mem_cons_of_mem _ mem)
    exact ⟨type :: types, by simp [typeExprs, made, others]⟩

/-- Typable properties have members. -/
theorem exists_members : (properties : List Model) → (∀ p ∈ properties, p.IsTypable) →
    ∃ own, members properties = .ok own
  | [], _ => ⟨[], rfl⟩
  | p :: rest, typable => by
    have first := typable p List.mem_cons_self
    obtain ⟨type, made⟩ := exists_typeExpr p first
    obtain ⟨member, written⟩ := exists_member (first p (.self p)).1 type
    obtain ⟨own, others⟩ := exists_members rest fun q mem => typable q (List.mem_cons_of_mem _ mem)
    exact ⟨member :: own, by simp [members, made, written, others]⟩

/-- What a model is linked to has a type expression, and so has no link at all. -/
theorem exists_linkExpr (type : TypeUse) : (link : Option Model) → (∀ l, link = some l → l.IsTypable) →
    ∃ expr, linkExpr type link = .ok expr
  | none, _ => ⟨type.typeExpr, rfl⟩
  | some l, typable => exists_typeExpr l (typable l rfl)

end

/-- A typable property has a member. -/
theorem exists_signature (typable : m.IsTypable) : ∃ member, m.signature = .ok member := by
  obtain ⟨type, made⟩ := exists_typeExpr m typable
  obtain ⟨member, written⟩ := exists_member (typable m (.self m)).1 type
  exact ⟨member, by simp [signature, made, written]⟩

end Model

end TypedClient
