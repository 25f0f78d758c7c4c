import TypedClient.Proofs.Declaration.TypeExpr
import TypedClient.Proofs.Distinct
import TypedClient.Proofs.Schema.ClosedTypes
import TypedClient.Proofs.TypeScript.Parentheses

/-! Lists of unions: where the type of the items is put in parentheses, and where it is not. -/

namespace TypedClient

open TypeScript

namespace TypeExpr

variable {type : TypeExpr} {types : List TypeExpr}

/-- A word stands for a tidy type. -/
theorem tidy_word {name : String} (plain : Plain name.toList) : Tidy (.reference name []) :=
  .reference plain.shows.closed (by simp)

/-- A type is null or has it already, or null is put beside it or its alternatives. -/
theorem orNull_cases (type : TypeExpr) : type.orNull = type ∨ type.orNull = .union [type, .null] ∨
    ∃ types, type = .union types ∧ type.orNull = .union (types ++ [.null]) := by
  unfold orNull
  split
  · split <;> simp
  · split <;> simp

/-- Null beside a tidy type leaves it tidy. -/
theorem Tidy.orNull (tidy : type.Tidy) : type.orNull.Tidy := by
  have null : TypeExpr.null.Tidy := tidy_word (by decide)
  obtain same | same | ⟨types, rfl, same⟩ := orNull_cases type <;> rw [same]
  · exact tidy
  · exact .union (by simp) (by simp [tidy, null])
  · obtain _ | _ | _ | ⟨several, each⟩ := tidy
    exact .union (by simp; omega) (List.forall_mem_append.mpr ⟨each, by simpa using null⟩)

/-- Null beside a tidy type leaves it tidy, wherever it is asked for. -/
theorem Tidy.nullable (tidy : type.Tidy) (isNullable : Bool) : (type.nullable isNullable).Tidy := by
  cases isNullable with
  | false => exact tidy
  | true => exact tidy.orNull

/-- The types of a list are tidy if all of it are, each once. -/
theorem tidy_distinct (each : ∀ t ∈ types, t.Tidy) : ∀ t ∈ distinct types, t.Tidy :=
  fun t mem => each t ((foldl_keep_sublist TypeExpr.same types).subset mem)

/-- The union of tidy types is tidy. -/
theorem tidy_unionOf (each : ∀ t ∈ types, t.Tidy) : (unionOf types).Tidy := by
  -- Of no type, of one type and of several, the union is a type of another kind each.
  have kept := tidy_distinct each
  unfold unionOf
  generalize distinct types = left at kept
  match left, kept with
  | [], _ => exact tidy_word (by decide)
  | [type], kept => exact kept type List.mem_cons_self
  | first :: second :: rest, kept => exact .union (by simp) kept

/-- The alternatives of a composition make up a tidy type if they are tidy. -/
theorem tidy_combine (each : ∀ t ∈ types, t.Tidy) (kind : Composition) : (kind.combine types).Tidy := by
  have kept := tidy_distinct each
  unfold Composition.combine
  generalize distinct types = left at kept
  match left, kept with
  | [], _ => exact tidy_word (by decide)
  | [type], kept => exact kept type List.mem_cons_self
  | first :: second :: rest, kept =>
    dsimp only
    split
    · exact .intersection (by simp) kept
    · exact .union (by simp) kept

/-- The type that is given by closed texts is tidy. -/
theorem tidy_of_isClosed {type : TypeUse} (closed : type.IsClosed) : type.typeExpr.Tidy := by
  rw [TypeUse.typeExpr]
  split
  · -- Binary data is a blob or a file, whose names are plain.
    have blob : Tidy (.reference "Blob" []) := tidy_word (by decide)
    have file : Tidy (.reference "File" []) := tidy_word (by decide)
    exact .union (by simp) (by simp [blob, file])
  split
  · next argument given =>
    split
    · exact .reference closed.text (by simp)
    · refine .reference closed.base ?_
      simpa using Tidy.reference (closed.template argument given) (by simp)
  · exact .reference closed.text (by simp)

end TypeExpr

/-- Where the model is an object, no key and no comment of its members gets out of its place. -/
def Model.IsTidy (m : Model) : Prop :=
  m.variant = .interface → ∀ p ∈ m.properties, TidyKey p.name ∧
    ∀ lines, p.comment = .ok lines → ∀ line ∈ lines, ¬SlipsThrough line

namespace Model

/-- The member for a property is tidy if its type is. -/
theorem tidy_of_member {p : Model} {type : TypeExpr} {member : Member TypeExpr} (tidy : type.Tidy)
    (key : TidyKey p.name) (kept : ∀ lines, p.comment = .ok lines → ∀ line ∈ lines, ¬SlipsThrough line)
    (made : p.member type = .ok member) :
    TidyKey member.name ∧ (∀ line ∈ member.comment, ¬SlipsThrough line) ∧ member.type.Tidy := by
  rw [Model.member] at made
  split at made
  · cases made
    have undefined : (TypeExpr.reference "undefined" []).Tidy := TypeExpr.tidy_word (by decide)
    exact ⟨key, by simp, .union (by simp) (by simp [tidy, undefined])⟩
  · obtain ⟨lines, written, made⟩ := Outcome.bind_eq_ok.mp made
    rw [← Outcome.pure_eq_ok.mp made]
    exact ⟨key, kept lines written, tidy⟩

/-- The members for the properties of an object are tidy if the types of these are. -/
theorem tidy_of_members {properties : List Model} {own : List (Member TypeExpr)}
    (made : members properties = .ok own)
    (typed : ∀ p ∈ properties, ∀ {type}, p.typeExpr = .ok type → type.Tidy)
    (tidy : ∀ p ∈ properties, TidyKey p.name ∧
      ∀ lines, p.comment = .ok lines → ∀ line ∈ lines, ¬SlipsThrough line) :
    (TypeExpr.object own).Tidy := by
  rw [members_eq] at made
  have each : ∀ member ∈ own, TidyKey member.name ∧ (∀ line ∈ member.comment, ¬SlipsThrough line) ∧
      member.type.Tidy := by
    intro member mem
    obtain ⟨p, inside, signed⟩ := Outcome.exists_item made mem
    obtain ⟨type, found, signed⟩ := Outcome.bind_eq_ok.mp signed
    obtain ⟨key, kept⟩ := tidy p inside
    exact tidy_of_member (typed p inside found) key kept signed
  exact .object (fun m mem => (each m mem).1) (fun m mem => (each m mem).2.1) fun m mem => (each m mem).2.2

/-- The types of several models are those of each of them. -/
theorem typeExprs_eq (models : List Model) : typeExprs models = models.mapM typeExpr := by
  induction models with
  | nil => rfl
  | cons m rest ih => simp [typeExprs, ih]

/-- A closed model whose objects are tidy stands for a tidy type. -/
theorem tidy_of_typeExpr {m : Model} {type : TypeExpr} (closed : m.IsClosed)
    (tidy : ∀ n, m.HasNode n → n.IsTidy) (made : m.typeExpr = .ok type) : type.Tidy := by
  -- The induction is on the names that are closed, which go through properties and links like the type does.
  induction closed generalizing type with
  | @of m closed _ _ ofProperty ofLink =>
    have property {p : Model} (mem : p ∈ m.properties) {type : TypeExpr} (made : p.typeExpr = .ok type) :
        type.Tidy :=
      ofProperty p mem (fun n node => tidy n (.ofProperty mem node)) made
    have link {item : TypeExpr} (made : linkExpr m.type m.link = .ok item) : item.Tidy := by
      cases linked : m.link with
      | none =>
        rw [linked] at made
        cases made
        exact TypeExpr.tidy_of_isClosed closed
      | some l =>
        rw [linked] at made
        exact ofLink l linked (fun n node => tidy n (.ofLink linked node)) made
    have own := tidy m (.self m)
    cases m with
    | mk variant name use isDefinition isRequired isReadOnly isNullable description deprecated default format
        properties enum enums linked enumName =>
    cases variant with
    | interface =>
      simp only [typeExpr] at made
      split at made
      · rw [← Outcome.pure_eq_ok.mp made]
        exact (TypeExpr.tidy_word (by decide)).nullable isNullable
      · obtain ⟨signatures, written, made⟩ := Outcome.bind_eq_ok.mp made
        rw [← Outcome.pure_eq_ok.mp made]
        exact (tidy_of_members written (fun p mem => property mem) (own rfl)).nullable isNullable
    | enumeration =>
      rw [← Outcome.pure_eq_ok.mp made]
      refine (TypeExpr.tidy_unionOf ?_).nullable isNullable
      exact List.forall_mem_map.mpr fun e _ => .literal e.value
    | composition kind =>
      simp only [typeExpr, typeExprs_eq] at made
      obtain ⟨types, found, made⟩ := Outcome.bind_eq_ok.mp made
      rw [← Outcome.pure_eq_ok.mp made]
      refine (TypeExpr.tidy_combine (fun t mem => ?_) kind).nullable isNullable
      obtain ⟨p, inside, typed⟩ := Outcome.exists_item found mem
      exact property inside typed
    | array =>
      obtain ⟨item, found, made⟩ := Outcome.bind_eq_ok.mp made
      rw [← Outcome.pure_eq_ok.mp made]
      exact (TypeExpr.Tidy.array (link found)).nullable isNullable
    | dictionary =>
      obtain ⟨item, found, made⟩ := Outcome.bind_eq_ok.mp made
      rw [← Outcome.pure_eq_ok.mp made]
      have key : (TypeExpr.reference "string" []).Tidy := TypeExpr.tidy_word (by decide)
      have record : Closed "Record".toList := (Plain.shows (by decide)).closed
      exact (TypeExpr.Tidy.reference record (by simp [key, link found])).nullable isNullable
    | reference =>
      rw [← Outcome.pure_eq_ok.mp made]
      exact (TypeExpr.tidy_of_isClosed closed).nullable isNullable
    | generic =>
      rw [← Outcome.pure_eq_ok.mp made]
      exact (TypeExpr.tidy_of_isClosed closed).nullable isNullable
    | constant value =>
      rw [← Outcome.pure_eq_ok.mp made]
      exact (TypeExpr.Tidy.literal value).nullable isNullable
    | untyped kind => cases made

end Model

/-- A list of items that are no reference links to what these are resolved to. -/
theorem Schema.resolve_array {name : Value} {members items : Members} {link : Model}
    (bare : members.get? "$ref" = none) (listed : members.get "type" = .text "array")
    (given : members.get "items" = .map items) (some : items ≠ []) (inline : items.get? "$ref" = none)
    (noEnum : members.get? "enum" = none) (resolved : resolve (.text "") (.map items) = .ok link) :
    resolve name (.map members)
      = .ok { described name members with variant := .array, type := link.type, link := .some link } := by
  -- The items have to be smaller than the list for the recursion to resolve them.
  have truthy : (members.get "items").truthy = true := by
    simpa [given, Value.truthy] using some
  have smaller := Value.size_get_lt truthy
  have form : Form.of members = .array (.map items) := by
    have noValues : listsEnumerable (members.get "enum") = false := by
      simp [Members.get, noEnum, listsEnumerable]
    have isList : (Value.text "array" == Value.text "array") = true := by decide
    rw [given] at truthy
    simp [Form.of, bare, isEnumeration, noValues, Form.ofStructure, listed, given, truthy, isList]
  rw [resolve_map, form]
  rw [given] at smaller
  simp [Form.model, array, Value.mentions, Members.has, inline, smaller, resolved]

/-- Parentheses make a text longer. -/
theorem length_parenthesized (flag : Bool) (text : String) :
    (parenthesized flag text).length = text.length + if flag then 2 else 0 := by
  cases flag with
  | false => rfl
  | true =>
    simp only [parenthesized, if_true, String.length_append]
    rw [show "(".length = 1 from rfl, show ")".length = 1 from rfl]
    omega

/-- Whether a text is in parentheses can be seen. -/
theorem parenthesized_inj {first second : Bool} {text : String} :
    parenthesized first text = parenthesized second text ↔ first = second := by
  refine ⟨fun same => ?_, fun same => by rw [same]⟩
  -- The two texts differ in their lengths.
  have lengths := congrArg String.length same
  rw [length_parenthesized, length_parenthesized] at lengths
  cases first <;> cases second <;> simp at lengths ⊢

/-- A list is written as its items, in parentheses if they are a union or an intersection, and null may stand
beside it. -/
theorem printType_nullable_array {type : TypeExpr} {level : Nat} {text : String}
    (printed : printType type level = .ok text) (isNullable : Bool) :
    printType ((TypeExpr.array type).nullable isNullable) level
      = .ok (parenthesized type.isCompound text ++ "[]" ++ if isNullable then " | null" else "") := by
  cases isNullable with
  | false => simp [TypeExpr.nullable, printType, printed]
  | true =>
    simp [TypeExpr.nullable, TypeExpr.orNull, TypeExpr.same, TypeExpr.null, printType, printTypes, printed,
      String.append_assoc]

/-- A list is written as its items are, in parentheses wherever these show an operator, exactly if the type of
the items is not, behind any number of lists, a union that is held as a single name. -/
theorem Schema.parenthesized_iff_not_hidesUnion {name : Value} {members items : Members} {link : Model}
    {type : TypeExpr} {level : Nat} {text : String}
    (bare : members.get? "$ref" = none) (listed : members.get "type" = .text "array")
    (given : members.get "items" = .map items) (some : items ≠ []) (inline : items.get? "$ref" = none)
    (noEnum : members.get? "enum" = none) (resolved : resolve (.text "") (.map items) = .ok link)
    (tidy : ∀ n, link.HasNode n → n.IsTidy) (typed : link.typeExpr = .ok type)
    (printed : printType type level = .ok text) :
    ∃ list listType, resolve name (.map members) = .ok list ∧ list.typeExpr = .ok listType ∧
      (printType listType level = .ok (parenthesized (showsOperator text) text ++ "[]"
          ++ if list.isNullable then " | null" else "") ↔ type.hidesUnion = false) := by
  -- What the text of the items shows is known from their type.
  have shown := (shows_printType (Model.tidy_of_typeExpr (isClosed_of_resolve resolved) tidy typed)
    printed).showsOperator_eq
  refine ⟨_, _, resolve_array bare listed given some inline noEnum resolved,
    by simp [Model.typeExpr, Model.linkExpr, typed]; rfl, ?_⟩
  -- Both texts end in the same way, so they differ in the parentheses alone.
  rw [printType_nullable_array printed, shown, Except.ok.injEq, String.append_left_inj,
    String.append_left_inj, parenthesized_inj]
  -- A union or an intersection is no name and no list, and so hides nothing.
  cases type <;> simp [TypeExpr.isCompound, TypeExpr.hidesUnion]

/-- A text or null, as the items of a list. -/
def Schema.nullableItems : Members :=
  [(.text "type", .list ["string", "null"])]

/-- A text or a number, as the items of a list. -/
def Schema.eitherItems : Members :=
  [(.text "type", .list ["string", "number"])]

/-- A model that is no object and holds no other model is tidy throughout. -/
theorem Model.isTidy_of_leaf {m : Model} (leaf : m.IsLeaf) (kind : m.variant ≠ .interface) :
    ∀ n, m.HasNode n → n.IsTidy := by
  intro n node
  cases node with
  | self => exact fun object => absurd object kind
  | ofProperty mem => simp [leaf.properties] at mem
  | ofEnum mem => simp [leaf.enums] at mem
  | ofLink linked => simp [leaf.link] at linked

/-- A type list with null is a union of its own, which stands in parentheses. -/
theorem Schema.parenthesized_iff_not_hidesUnion_nullable : ∃ list listType,
    resolve (.text "") (.map [(.text "type", "array"), (.text "items", .map nullableItems)]) = .ok list ∧
      list.typeExpr = .ok listType ∧ printType listType 0 = .ok "(string | null)[]" := by
  have resolved : resolve (.text "") (.map nullableItems) = .ok { described (.text "") nullableItems with
      type := .plain "string" } := (resolve_map _ _).trans rfl
  obtain ⟨list, listType, found, typed, iff⟩ : ∃ list listType,
      resolve (.text "") (.map [(.text "type", "array"), (.text "items", .map nullableItems)]) = .ok list ∧
      list.typeExpr = .ok listType ∧ (printType listType 0 = .ok (parenthesized
          (showsOperator "string | null") "string | null" ++ "[]"
        ++ if list.isNullable then " | null" else "") ↔ TypeExpr.hidesUnion _ = false) :=
    parenthesized_iff_not_hidesUnion rfl rfl rfl (by simp [nullableItems]) rfl rfl resolved
      (Model.isTidy_of_leaf ⟨rfl, rfl, rfl, rfl⟩ nofun) rfl rfl
  refine ⟨list, listType, found, typed, ?_⟩
  obtain rfl := Except.ok.inj (found.symm.trans
    (resolve_array rfl rfl rfl (by simp [nullableItems]) rfl rfl resolved))
  exact iff.mpr rfl

/-- A type list of two types is one name, to which the brackets of a list are put without parentheses. -/
theorem Schema.not_parenthesized_either : ∃ link type text list listType,
    resolve (.text "") (.map eitherItems) = .ok link ∧ link.typeExpr = .ok type ∧
      printType type 0 = .ok text ∧
      resolve (.text "") (.map [(.text "type", "array"), (.text "items", .map eitherItems)]) = .ok list ∧
      list.typeExpr = .ok listType ∧
      printType listType 0 ≠ .ok (parenthesized (showsOperator text) text ++ "[]"
        ++ if list.isNullable then " | null" else "") := by
  have resolved : resolve (.text "") (.map eitherItems) = .ok { described (.text "") eitherItems with
      type := .plain "string | number" } := (resolve_map _ _).trans rfl
  refine ⟨_, .reference "string | number" [], "string | number", _, .array (.reference "string | number" []),
    resolved, rfl, rfl, resolve_array rfl rfl rfl (by simp [eitherItems]) rfl rfl resolved, rfl, ?_⟩
  have written : printType (.array (.reference "string | number" [])) 0 = .ok "string | number[]" := rfl
  rw [written]
  exact fun same => absurd (Except.ok.inj same) (by decide)

end TypedClient
