import TypedClient.Proofs.Declaration.EnumStyles
import TypedClient.Proofs.Declaration.TypeExpr
import TypedClient.Proofs.Distinct
import TypedClient.Proofs.Text.Case

/-! The values that an enum stands for in each style; as a true enum it has lost null. -/

namespace TypedClient

/-- An exported name is never the word for null. -/
theorem exportedEnumName_ne_null (name : String) : exportedEnumName name ≠ "null" := by
  intro same
  have chars : Name.upperFirst (Name.joinHyphens (unquoteName name).toList) = "null".toList := by
    rw [← same, exportedEnumName, String.toList_ofList]
  generalize Name.joinHyphens (unquoteName name).toList = cs at chars
  cases cs with
  | nil => cases chars
  | cons c rest =>
    -- What the name starts with is in upper case.
    obtain ⟨first, more, form⟩ := List.exists_cons_of_ne_nil (Text.upperOf_ne_nil c)
    rw [Name.upperFirst, form, List.cons_append] at chars
    have small : Text.isAsciiLower first = false :=
      Text.isAsciiLower_of_mem_upperOf (form ▸ List.mem_cons_self)
    rw [(List.cons.inj chars).1] at small
    exact absurd small (by decide)

namespace TypeExpr

/-- The value is one of those that a type lists: a literal, null, or what one of its alternatives lists. -/
inductive Lists : TypeExpr → Value → Prop
  | literal (v : Value) : Lists (.literal v) v
  | null : Lists TypeExpr.null .null
  | alternative {types : List TypeExpr} {type : TypeExpr} {v : Value} (mem : type ∈ types)
      (listed : Lists type v) : Lists (.union types) v

variable {type : TypeExpr} {types : List TypeExpr} {values : List Value} {v w : Value}

/-- A literal lists itself. -/
theorem lists_literal : (TypeExpr.literal w).Lists v ↔ v = w := by
  constructor
  · rintro ⟨⟩
    rfl
  · rintro rfl
    exact .literal v

/-- The type of null lists null. -/
theorem lists_null : TypeExpr.null.Lists v ↔ v = .null := by
  constructor
  · rintro ⟨⟩
    rfl
  · rintro rfl
    exact .null

/-- No other name lists anything. -/
theorem not_lists_reference {name : String} {args : List TypeExpr} (other : name ≠ "null") :
    ¬ (TypeExpr.reference name args).Lists v := by
  intro listed
  generalize same : TypeExpr.reference name args = type at listed
  cases listed with
  | null => exact other (TypeExpr.reference.inj same).1
  | literal => cases same
  | alternative => cases same

/-- A union lists what its alternatives list. -/
theorem lists_union : (TypeExpr.union types).Lists v ↔ ∃ type ∈ types, type.Lists v := by
  constructor
  · rintro (_ | _ | ⟨mem, listed⟩)
    exact ⟨_, mem, listed⟩
  · rintro ⟨type, mem, listed⟩
    exact .alternative mem listed

/-- A type that null is added to lists null and what it listed before. -/
theorem lists_orNull : type.orNull.Lists v ↔ type.Lists v ∨ v = .null := by
  cases type with
  | union types =>
    rw [orNull]
    split
    · next among =>
      -- The union has null already.
      obtain ⟨t, mem, equal⟩ := List.any_eq_true.mp among
      rw [same_null.mp equal] at mem
      refine (or_iff_left_of_imp ?_).symm
      rintro rfl
      exact .alternative mem .null
    · simp only [lists_union, List.mem_append, List.mem_singleton, or_and_right, exists_or,
        exists_eq_left, lists_null]
  | _ =>
    -- A type that is no union either is null or becomes a union with it.
    simp only [orNull]
    split
    · next equal => simp [same_null.mp equal, lists_null]
    · simp [lists_union, lists_null]

/-- A type that may be null lists null beside what it lists else. -/
theorem lists_nullable {isNullable : Bool} :
    (type.nullable isNullable).Lists v ↔ type.Lists v ∨ v = .null ∧ isNullable = true := by
  cases isNullable <;> simp [nullable, lists_orNull]

/-- Literals of different values are all kept. -/
theorem distinct_literals (apart : values.Pairwise fun a b => a.same b = false) :
    distinct (values.map .literal) = values.map .literal := by
  have types : (values.map TypeExpr.literal).Pairwise fun s t => s.same t = false := by
    rw [List.pairwise_map]
    exact apart.imp fun differ => by simpa [same, BEq.beq] using differ
  exact foldl_keep_of_pairwise types

/-- A union of literals lists their values. -/
theorem lists_unionOf (apart : values.Pairwise fun a b => a.same b = false) :
    (unionOf (values.map .literal)).Lists v ↔ v ∈ values := by
  rw [unionOf, distinct_literals apart]
  -- Without values it is the type of nothing, and a single one stands without a union.
  match values with
  | [] => exact iff_of_false (not_lists_reference (by decide)) (by simp)
  | [w] => simp [lists_literal]
  | w :: x :: rest => simp [lists_union, lists_literal]

/-- A union of literals is a literal or a union of several, with null in it if it is allowed. -/
theorem unionOf_ne_reference (apart : values.Pairwise fun a b => a.same b = false) (some : values ≠ [])
    (isNullable : Bool) (name : String) (args : List TypeExpr) :
    (unionOf (values.map .literal)).nullable isNullable ≠ .reference name args := by
  rw [unionOf, distinct_literals apart]
  match values, some with
  | [w], _ => cases isNullable <;> simp [nullable, orNull, same, null]
  | w :: x :: rest, _ =>
    cases isNullable
    · simp [nullable]
    · -- It stays a union, be null in it already or not.
      simp only [nullable, orNull, if_true, List.map_cons]
      split <;> simp

end TypeExpr

/-- The value is one of those that the declarations give a name for; an alias of a name is followed. -/
inductive Declares (ds : List Declaration) : String → Value → Prop
  | member {name : String} {members : List EnumMember} {comment : List String} {member : EnumMember}
      (declared : .enum name members comment ∈ ds) (mem : member ∈ members) :
      Declares ds name member.value
  | listed {name : String} {type : TypeExpr} {comment : List String} {v : Value}
      (declared : .typeAlias name type comment ∈ ds) (listed : type.Lists v) : Declares ds name v
  | followed {name target : String} {comment : List String} {v : Value}
      (declared : .typeAlias name (.reference target []) comment ∈ ds)
      (meant : Declares ds target v) : Declares ds name v

namespace Declares

variable {ds : List Declaration} {name target : String} {type : TypeExpr} {comment : List String}
  {members : List EnumMember} {v : Value}

/-- A name that is that of one enum only has the values of its members. -/
theorem iff_of_enum (declared : .enum name members comment ∈ ds)
    (only : ∀ d ∈ ds, d.typeName? = some name → d = .enum name members comment) :
    Declares ds name v ↔ ∃ member ∈ members, member.value = v := by
  constructor
  · rintro (⟨found, mem⟩ | ⟨found, -⟩ | ⟨found, -⟩)
    · cases only _ found rfl
      exact ⟨_, mem, rfl⟩
    · cases only _ found rfl
    · cases only _ found rfl
  · rintro ⟨member, mem, rfl⟩
    exact .member declared mem

/-- A name that is that of one alias only has the values that its type lists, unless this is a name. -/
theorem iff_of_alias (declared : .typeAlias name type comment ∈ ds)
    (only : ∀ d ∈ ds, d.typeName? = some name → d = .typeAlias name type comment)
    (plain : ∀ target, type ≠ .reference target []) : Declares ds name v ↔ type.Lists v := by
  constructor
  · rintro (⟨found, -⟩ | ⟨found, listed⟩ | ⟨found, -⟩)
    · cases only _ found rfl
    · cases only _ found rfl
      exact listed
    · cases only _ found rfl
      exact absurd rfl (plain _)
  · exact .listed declared

/-- A name that is that of one alias of another name has the values of that one. -/
theorem iff_of_reference (declared : .typeAlias name (.reference target []) comment ∈ ds)
    (only : ∀ d ∈ ds, d.typeName? = some name → d = .typeAlias name (.reference target []) comment)
    (other : target ≠ "null") : Declares ds name v ↔ Declares ds target v := by
  constructor
  · rintro (⟨found, -⟩ | ⟨found, listed⟩ | ⟨found, meant⟩)
    · cases only _ found rfl
    · cases only _ found rfl
      exact absurd listed (TypeExpr.not_lists_reference other)
    · cases only _ found rfl
      exact meant
  · exact .followed declared

end Declares

namespace Schema

variable {members : Members} {enum : List EnumValue} {m : Model}

/-- The values of an enum can be told apart, and each of them is of a kind that an enum can have. -/
theorem values_of_enumValues (found : enumValues members = .ok enum) :
    (enum.map EnumValue.value).Pairwise (fun a b => a.same b = false) ∧
      ∀ v ∈ enum.map EnumValue.value, isEnumerable v = true := by
  cases listed : members.get "enum" with
  | list values =>
    rw [values_eq_of_enumValues listed found]
    exact ⟨(Value.pairwise_distinct values).filter _, fun v mem => (List.mem_filter.mp mem).2⟩
  | _ =>
    rw [enumValues, listed] at found
    cases found
    simp

/-- A schema whose model is an enum lists its values. -/
theorem enum_of_resolve {name schema : Value} (resolved : resolve name schema = .ok m)
    (isEnum : m.isEnum = true) : ∃ members, enumValues members = .ok m.enum ∧ m.enum ≠ [] := by
  obtain ⟨members, inner, rfl, made, -⟩ := resolve_eq_ok resolved
  obtain ⟨form, found⟩ := enumValues_of_isEnum made isEnum
  exact ⟨members, found, enumValues_ne_nil (Form.listed_of_enumeration form) found⟩

end Schema

namespace Model

variable {m : Model} {style : EnumStyle} {name : String} {v : Value}

/-- The values of an enum: there are some, they can be told apart, and null is none of them. -/
structure HasValues (m : Model) : Prop where
  nonempty : m.enum.map EnumValue.value ≠ []
  apart : (m.enum.map EnumValue.value).Pairwise fun a b => a.same b = false
  notNull : .null ∉ m.enum.map EnumValue.value

/-- The union that an enum stands for is made of its values alone. -/
theorem literals_eq (m : Model) :
    m.literals
      = (TypeExpr.unionOf ((m.enum.map EnumValue.value).map .literal)).nullable m.isNullable := by
  rw [literals, List.map_map]
  rfl

/-- The union that an enum stands for lists its values, and null if it may be null. -/
theorem HasValues.lists_literals (held : m.HasValues) :
    m.literals.Lists v ↔ v ∈ m.enum.map EnumValue.value ∨ v = .null ∧ m.isNullable = true := by
  rw [literals_eq, TypeExpr.lists_nullable, TypeExpr.lists_unionOf held.apart]

/-- The union that an enum stands for is no name. -/
theorem HasValues.literals_ne_reference (held : m.HasValues) (target : String) :
    m.literals ≠ .reference target [] := by
  rw [literals_eq]
  exact TypeExpr.unionOf_ne_reference held.apart held.nonempty m.isNullable target []

/-- The members of an enum have its values. -/
theorem values_of_members {members : List EnumMember} (made : m.enum.mapM EnumValue.member = .ok members) :
    members.map EnumMember.value = m.enum.map EnumValue.value :=
  Outcome.map_of_mapM EnumValue.value EnumMember.value made fun e member written => by
    simp only [EnumValue.member, Outcome.bind_eq_ok, Outcome.pure_eq_ok] at written
    obtain ⟨comment, -, rfl⟩ := written
    rfl

/-- As a true enum, an enum gives its name its values and nothing else. -/
theorem declares_typescript {members : List EnumMember}
    {comment : List String} (values : members.map EnumMember.value = m.enum.map EnumValue.value)
    (other : name ≠ "null") :
    Declares (m.exportedAs .typescript name members comment) m.label v
      ↔ v ∈ m.enum.map EnumValue.value := by
  have declared : .enum name members comment ∈ m.exportedAs .typescript name members comment := by
    simp [exportedAs]
  by_cases same : m.label = name
  · -- The enum itself has the name of the model.
    have only : ∀ d ∈ m.exportedAs .typescript name members comment,
        d.typeName? = some m.label → d = .enum m.label members comment := by
      simp [exportedAs, same]
    rw [Declares.iff_of_enum (same ▸ declared) only, ← values, List.mem_map]
  · -- The name of the model is an alias of that of the enum.
    have renamed : .typeAlias m.label (.reference name []) []
        ∈ m.exportedAs .typescript name members comment := by
      simp [exportedAs, same]
    have onlyRenamed : ∀ d ∈ m.exportedAs .typescript name members comment,
        d.typeName? = some m.label → d = .typeAlias m.label (.reference name []) [] := by
      simp [exportedAs, same, Ne.symm same, Declaration.typeName?]
    have only : ∀ d ∈ m.exportedAs .typescript name members comment,
        d.typeName? = some name → d = .enum name members comment := by
      simp [exportedAs, same, Declaration.typeName?]
    rw [Declares.iff_of_reference renamed onlyRenamed other, Declares.iff_of_enum declared only, ← values,
      List.mem_map]

/-- As a union of its values, an enum gives its name null too if it may be null. -/
theorem HasValues.declares_union (held : m.HasValues) {members : List EnumMember}
    {comment : List String} (union : style ≠ .typescript) :
    Declares (m.exportedAs style name members comment) m.label v
      ↔ v ∈ m.enum.map EnumValue.value ∨ v = .null ∧ m.isNullable = true := by
  -- An object beside the alias is no type.
  have declared : .typeAlias m.label m.literals comment ∈ m.exportedAs style name members comment := by
    cases style <;> simp [exportedAs] at union ⊢
  have only : ∀ d ∈ m.exportedAs style name members comment,
      d.typeName? = some m.label → d = .typeAlias m.label m.literals comment := by
    cases style <;> simp [exportedAs, Declaration.typeName?] at union ⊢
  rw [Declares.iff_of_alias declared only held.literals_ne_reference, held.lists_literals]

/-- What an enum is declared as gives its name its values, and null only if it is no true enum. -/
theorem HasValues.declares_exportedAs (held : m.HasValues) {members : List EnumMember}
    {comment : List String} (values : members.map EnumMember.value = m.enum.map EnumValue.value)
    (other : name ≠ "null") :
    Declares (m.exportedAs style name members comment) m.label v ↔
      v ∈ m.enum.map EnumValue.value ∨ v = .null ∧ m.isNullable = true ∧ style ≠ .typescript := by
  by_cases trueEnum : style = .typescript
  · rw [trueEnum, declares_typescript values other]
    simp
  · rw [held.declares_union trueEnum]
    simp [trueEnum]

end Model

namespace Client

variable {document : Value} {client : Client} {config : Config} {m : Model}

/-- An enum among the models of a client has values. -/
theorem hasValues_of_mem_models (built : ofDocument document config = .ok client)
    (mem : m ∈ client.models) (isEnum : m.isEnum = true) : m.HasValues := by
  obtain ⟨name, schema, bare, resolved, variant, enum, -⟩ := exists_resolved_of_mem_models built mem
  have bareIsEnum : bare.isEnum = true := by rwa [Model.isEnum, ← variant]
  obtain ⟨members, found, nonempty⟩ := Schema.enum_of_resolve resolved bareIsEnum
  rw [← enum] at found nonempty
  obtain ⟨apart, enumerable⟩ := Schema.values_of_enumValues found
  refine ⟨by simpa using nonempty, apart, fun null => ?_⟩
  cases enumerable .null null

/-- What is declared for an enum that has an exported name gives its name the same values in each style,
but for null. -/
theorem declares_iff_of_declarations (built : ofDocument document config = .ok client)
    (mem : m ∈ client.models) (isEnum : m.isEnum = true) (exported : m.enumName ≠ none)
    {style : EnumStyle} {own : List Declaration} (made : m.declarations style = .ok own) (v : Value) :
    Declares own m.label v ↔
      v ∈ m.enum.map EnumValue.value ∨ v = .null ∧ m.isNullable = true ∧ style ≠ .typescript := by
  obtain ⟨name, given⟩ := Option.ne_none_iff_exists'.mp exported
  have inside : m ∈ client.enums :=
    List.mem_flatMap.mpr ⟨m, mem, by simp [Model.namedEnums, isEnum]⟩
  have other : name ≠ "null" := by
    rw [(named_enums built).enumName_eq inside given]
    exact exportedEnumName_ne_null m.label
  -- An enum is declared by itself, as it has no enums inside it.
  have kind : m.variant = .enumeration := by
    rw [Model.isEnum] at isEnum
    split at isEnum
    · next kind => exact kind
    · cases isEnum
  rw [Model.declarations, kind] at made
  simp only [Model.enumDeclarations_eq isEnum, given, Outcome.bind_eq_ok, Outcome.pure_eq_ok] at made
  obtain ⟨members, membersMade, comment, -, rfl⟩ := made
  exact (hasValues_of_mem_models built mem isEnum).declares_exportedAs
    (Model.values_of_members membersMade) other

/--
An enum stands for the same values in all three styles exactly if null is none of them.

In each style these are the values of the enum, and null is among them if the enum may be null, unless it
is declared as a true enum.
-/
theorem sameValues_iff_not_nullable (built : ofDocument document config = .ok client)
    (mem : m ∈ client.models) (isEnum : m.isEnum = true) (exported : m.enumName ≠ none)
    {types : OutputFile} (made : client.typesFile config = .ok types) :
    ∃ own : EnumStyle → List Declaration,
      (∀ style, m.declarations style = .ok (own style) ∧
        ∃ types, client.typesFile { config with enums := style } = .ok types ∧
          own style <:+: types.declarations) ∧
      (∀ style v, Declares (own style) m.label v ↔
        v ∈ m.enum.map EnumValue.value ∨ v = .null ∧ m.isNullable = true ∧ style ≠ .typescript) ∧
      ((∀ style other v, Declares (own style) m.label v ↔ Declares (own other) m.label v) ↔
        m.isNullable = false) := by
  obtain ⟨ofModels, ofOperations, each⟩ := exists_typesFiles built made
  have declared : ∀ style, ∃ own, m.declarations style = .ok own ∧ own <:+: ofModels style := by
    intro style
    have modelsMade := (each style).1
    simp only [modelDeclarations, Outcome.bind_eq_ok, Outcome.pure_eq_ok] at modelsMade
    obtain ⟨parts, partsMade, same⟩ := modelsMade
    obtain ⟨own, inside, ownMade⟩ := Outcome.exists_result partsMade mem
    exact ⟨own, ownMade, same ▸ List.infix_of_mem_flatten inside⟩
  choose own ownMade within using declared
  have values (style : EnumStyle) (v : Value) :=
    declares_iff_of_declarations built mem isEnum exported (ownMade style) v
  refine ⟨own, fun style => ⟨ownMade style, ?_⟩, values, ?_⟩
  · obtain ⟨-, types, typesMade, held⟩ := each style
    exact ⟨types, typesMade, held ▸ (within style).trans (List.prefix_append _ _).isInfix⟩
  · simp only [values]
    constructor
    · -- Null tells a union from a true enum, as it is none of the values.
      intro same
      have notNull := (hasValues_of_mem_models built mem isEnum).notNull
      simpa [notNull] using same .union .typescript .null
    · intro closed
      simp [closed]

/-- An enum of a text and a number, which has another name than it is exported under. -/
theorem sameValues_iff_not_nullable_mixed :
    let document : Value := .map [(.text "swagger", "2.0"), (.text "definitions", .map [
      (.text "pet_status", .map [(.text "enum", .list ["a", .int 1])])])]
    ∃ (client : Client) (m : Model) (types : OutputFile) (own : EnumStyle → List Declaration),
      ofDocument document {} = .ok client ∧ m ∈ client.models ∧
      m.isEnum = true ∧ m.enumName = some "PetStatus" ∧ client.typesFile {} = .ok types ∧
      (∀ style, m.declarations style = .ok (own style)) ∧
      ∀ style v, Declares (own style) m.label v ↔ v ∈ m.enum.map EnumValue.value := by
  intro document
  obtain ⟨client, built, seen⟩ := Outcome.exists_of_any (x := ofDocument document {})
    (p := fun client => (client.typesFile {}).toOption.any (fun _ => true) &&
      client.models.any fun m => m.isEnum && m.enumName == some "PetStatus" && !m.isNullable)
    (by decide +kernel)
  simp only [Bool.and_eq_true, List.any_eq_true, beq_iff_eq, Bool.not_eq_true'] at seen
  obtain ⟨written, m, mem, ⟨isEnum, exported⟩, closed⟩ := seen
  obtain ⟨types, made, -⟩ := Outcome.exists_of_any written
  obtain ⟨own, each, values, -⟩ :=
    sameValues_iff_not_nullable built mem isEnum (by simp [exported]) made
  exact ⟨client, m, types, own, built, mem, isEnum, exported, made, fun style => (each style).1,
    fun style v => by simpa [closed] using values style v⟩

/-- An enum that may be null stands for null as a union, and not as a true enum. -/
theorem not_sameValues_nullable :
    let document : Value := .map [(.text "swagger", "2.0"), (.text "definitions", .map [
      (.text "pet_status", .map [(.text "type", "string"), (.text "enum", .list ["a", .null])])])]
    ∃ client m asUnion asEnum, ofDocument document {} = .ok client ∧ m ∈ client.models ∧
      m.isEnum = true ∧ m.enumName = some "PetStatus" ∧ m.declarations .union = .ok asUnion ∧
      m.declarations .typescript = .ok asEnum ∧
      Declares asUnion m.label .null ∧ ¬ Declares asEnum m.label .null := by
  intro document
  obtain ⟨client, built, seen⟩ := Outcome.exists_of_any (x := ofDocument document {})
    (p := fun client => client.models.any fun m =>
      m.isEnum && m.enumName == some "PetStatus" && m.isNullable &&
        (m.declarations .union).toOption.any (fun _ => true) &&
          (m.declarations .typescript).toOption.any fun _ => true)
    (by decide +kernel)
  simp only [Bool.and_eq_true, List.any_eq_true, beq_iff_eq] at seen
  obtain ⟨m, mem, ⟨⟨⟨isEnum, exported⟩, nullable⟩, unionMade⟩, enumMade⟩ := seen
  obtain ⟨asUnion, unionMade, -⟩ := Outcome.exists_of_any unionMade
  obtain ⟨asEnum, enumMade, -⟩ := Outcome.exists_of_any enumMade
  have values {style own} (made : m.declarations style = .ok own) :=
    declares_iff_of_declarations built mem isEnum (by simp [exported]) made .null
  have notNull := (hasValues_of_mem_models built mem isEnum).notNull
  exact ⟨client, m, asUnion, asEnum, built, mem, isEnum, exported, unionMade, enumMade,
    by simp [values unionMade, nullable], by simp [values enumMade, notNull]⟩

end Client

end TypedClient
