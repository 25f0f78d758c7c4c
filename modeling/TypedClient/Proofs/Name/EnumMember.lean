import TypedClient.Name.EnumMember
import TypedClient.Proofs.Name.Identifier
import TypedClient.Proofs.Number.Text
import TypedClient.Proofs.Schema.Enumerable
import TypedClient.Proofs.TypeScript.PropertyKey

/-! The keys of enum members: the names that they denote, and which values are given the same one. -/

namespace TypedClient

namespace Name

open Text (isIdentifierStart isIdentifierPart isAsciiLower)
open TypeScript (isIdentifierName)

variable {cs : List Char} {c : Char}

/-- Setting capitals apart adds underscores only, and none in front. -/
theorem splitCases_facts (cs : List Char) :
    (∀ c ∈ splitCases cs, c ∈ cs ∨ c = '_') ∧ (splitCases cs).head? = cs.head? := by
  -- A character is kept with or without an underscore behind it, so the first one stays in front.
  fun_induction splitCases cs with
  | case1 a b rest _ ih =>
    refine ⟨?_, rfl⟩
    have inside := ih.1
    simp only [List.mem_cons] at inside ⊢
    grind
  | case2 a b rest _ ih =>
    refine ⟨?_, rfl⟩
    have inside := ih.1
    simp only [List.mem_cons] at inside ⊢
    grind
  | case3 => exact ⟨fun c mem => .inl mem, rfl⟩

/-- In upper case, a legal name is one still. -/
theorem isIdentifierName_toUpper (legal : isIdentifierName (String.ofList cs) = true) :
    isIdentifierName (String.ofList (Text.toUpper cs)) = true := by
  obtain ⟨start, parts⟩ := isIdentifierName_iff.mp legal
  refine isIdentifierName_iff.mpr ⟨?_, fun d mem => ?_⟩
  · cases cs with
    | nil => cases start
    | cons c rest =>
      obtain ⟨d, more, form⟩ := List.exists_cons_of_ne_nil (Text.upperOf_ne_nil c)
      have begins : isIdentifierStart d = true :=
        Text.isIdentifierStart_of_head?_upperOf (by simpa using start) (by simp [form])
      simp [Text.toUpper, form, begins]
  · obtain ⟨c, inside, mem⟩ := List.mem_flatMap.mp mem
    exact Text.isIdentifierPart_of_mem_upperOf (parts c inside) mem

/-- The key for a text is a legal name. -/
theorem isIdentifierName_memberKey (cs : List Char) :
    isIdentifierName (String.ofList (memberKey cs)) = true := by
  rw [memberKey]
  refine isIdentifierName_toUpper ?_
  obtain ⟨key, isKey⟩ : ∃ key, key = splitCases (startable (legalized '_' cs)) := ⟨_, rfl⟩
  rw [← isKey]
  split
  · decide +kernel
  · next some =>
    have legal : ∀ c ∈ legalized '_' cs, isIdentifierPart c = true := fun c => isIdentifierPart_of_mem_legalized
    obtain ⟨parts, start⟩ := startable_facts legal
    obtain ⟨inside, head⟩ := splitCases_facts (startable (legalized '_' cs))
    rw [← isKey] at inside head
    refine isIdentifierName_iff.mpr ⟨?_, fun c mem => ?_⟩
    · -- Setting capitals apart leaves the text to begin as it did, which is how a name may begin.
      rw [head]
      refine start fun none => some ?_
      simpa [none] using head
    · obtain old | rfl := inside c mem
      · exact parts c old
      · rfl

/-- The key for a text has no small letter of the ASCII alphabet. -/
theorem isAsciiLower_of_mem_memberKey (mem : c ∈ memberKey cs) : isAsciiLower c = false := by
  obtain ⟨_, -, mem⟩ := List.mem_flatMap.mp mem
  exact Text.isAsciiLower_of_mem_upperOf mem

end Name

section Names

open TypeScript (Denotes IsStringLiteral)

/-- The name of the member for a scalar: its key, without the quotes that the key of a number has. -/
def Scalar.memberName : Scalar → String
  | int n => "_" ++ toString n
  | float x => "_" ++ x.text
  | s => s.enumKey

/-- The name of the member for an enum value. -/
def Value.memberName : Value → String
  | scalar s => s.memberName
  | _ => Scalar.memberName .null

/-- Two scalars of an enum are given the same member name: two texts with the same key, or a text and what it
spells. No two numbers clash, and no number clashes with a truth value. -/
def Scalar.Clash : Scalar → Scalar → Prop
  | text s, text t => Name.memberKey s.toList = Name.memberKey t.toList
  -- The key of a text can be the word for a truth value, or an underscore with the digits of an integer.
  | text s, bool b | bool b, text s => String.ofList (Name.memberKey s.toList) = if b then "TRUE" else "FALSE"
  | text s, int n | int n, text s => String.ofList (Name.memberKey s.toList) = "_" ++ toString n
  | _, _ => False

/-- Two values of an enum are given the same member name. -/
def Value.Clash : Value → Value → Prop
  | scalar a, scalar b => a.Clash b
  | _, _ => False

instance : DecidableRel Scalar.Clash := fun a b => by
  cases a <;> cases b <;> first | exact instDecidableFalse | exact decEq _ _

instance : DecidableRel Value.Clash := fun v w => by
  cases v <;> cases w <;> first | exact instDecidableFalse | exact inferInstanceAs (Decidable (Scalar.Clash _ _))

/-- A digit needs no escape in quotes. -/
theorem escaped_of_isDigit {c : Char} (digit : c.isDigit = true) : Text.escaped ['\x27'] c = [c] := by
  have other (mark : Char) (none : mark.isDigit = false) : c ≠ mark := by
    rintro rfl
    cases digit.symm.trans none
  have quote := other '\x27' rfl
  simp [Text.escaped, Text.escapeMark?, Ne.symm quote, other '\\' rfl, other '\n' rfl, other '\r' rfl,
    other '\t' rfl, other '\u2028' rfl, other '\u2029' rfl]

/-- A number in single quotes behind an underscore denotes what stands between the quotes. -/
theorem isStringLiteral_number {s : String} (plain : ∀ c ∈ s.toList, Text.escaped ['\x27'] c = [c]) :
    IsStringLiteral '\x27' ("'_" ++ s ++ "'") ("_" ++ s) := by
  have inside : s.toList.flatMap (Text.escaped ['\x27']) = s.toList := by
    rw [List.flatMap_congr plain]
    simp
  have quoted : quoteText (String.singleton '\x27') ("_" ++ s) = "'_" ++ s ++ "'" := by
    rw [← String.toList_inj]
    simp [quoteText, Text.quoted, inside, Text.escaped, Text.escapeMark?]
  exact quoted ▸ TypeScript.isStringLiteral_quoted (.inl rfl) _

/-- The key for a scalar denotes the name of its member. -/
theorem Scalar.denotes_enumKey (s : Scalar) : Denotes s.enumKey s.memberName := by
  have name (cs : List Char) : Denotes (String.ofList (Name.memberKey cs)) (String.ofList (Name.memberKey cs)) :=
    .identifier (Name.isIdentifierName_memberKey cs) rfl
  cases s with
  | text t => exact name t.toList
  | bool b => cases b <;> exact .identifier (by decide +kernel) rfl
  | int n =>
    exact .text (isStringLiteral_number (forall_mem_toString (fun c => escaped_of_isDigit) (by decide) n))
  | float x =>
    exact .text (isStringLiteral_number (x.forall_mem_text (fun c => escaped_of_isDigit)
      (by simp [Text.escaped, Text.escapeMark?])))
  | null | moment | bytes => exact name []

variable {s : String} {n : Int} {x : Double} {b : Bool} {v w : Value}

/-- The key for a text is never an underscore with a double behind it, which has a small letter or a point. -/
theorem memberKey_ne_double (cs : List Char) (x : Double) :
    String.ofList (Name.memberKey cs) ≠ "_" ++ x.text := by
  intro same
  obtain ⟨mark, known, mem⟩ := x.exists_mark
  have inside : mark ∈ Name.memberKey cs := by
    rw [← String.toList_ofList (l := Name.memberKey cs), same, String.toList_append]
    exact List.mem_append_right _ mem
  have part := (Name.isIdentifierName_iff.mp (Name.isIdentifierName_memberKey cs)).2 mark inside
  have large := Name.isAsciiLower_of_mem_memberKey inside
  simp only [List.mem_cons, List.not_mem_nil, or_false] at known
  obtain rfl | rfl | rfl := known
  · exact absurd part (by decide +kernel)
  all_goals exact absurd large (by decide)

/-- An integer is not written as a double is. -/
theorem toString_ne_double (n : Int) (x : Double) : toString n ≠ x.text := by
  intro same
  obtain ⟨mark, known, mem⟩ := x.exists_mark
  have other (c : Char) (digit : c.isDigit = true) : c ∉ ['.', 'e', 'n'] := by
    intro mem
    simp only [List.mem_cons, List.not_mem_nil, or_false] at mem
    obtain rfl | rfl | rfl := mem <;> cases digit
  exact forall_mem_toString other (by decide) n mark (same ▸ mem) known

/-- No two integers have the same numeral. -/
theorem toString_int_inj {n m : Int} (same : toString n = toString m) : n = m := by
  have digits {k l : Nat} (same : toString k = toString l) : k = l := by
    simpa using congrArg (fun numeral => Nat.ofDigitChars 10 numeral.toList 0) same
  -- A minus sign is no digit, so one sign is given away by the text of the other.
  have signed (k l : Nat) : toString (Int.ofNat k) ≠ toString (Int.negSucc l) := by
    intro same
    have mem : '-' ∈ (toString (Int.negSucc l)).toList := by
      rw [show toString (Int.negSucc l) = "-" ++ toString (l + 1) from rfl, String.toList_append]
      exact List.mem_append_left _ (by decide)
    rw [← same] at mem
    exact Double.not_mem_of_digits (Double.forall_mem_digitText (fun _ digit => digit) k) rfl mem
  cases n with
  | ofNat k =>
    cases m with
    | ofNat l => exact congrArg Int.ofNat (digits same)
    | negSucc l => exact absurd same (signed k l)
  | negSucc k =>
    cases m with
    | ofNat l => exact absurd same.symm (signed l k)
    | negSucc l =>
      have next : k + 1 = l + 1 := digits ((String.append_right_inj "-").mp same)
      exact congrArg Int.negSucc (Nat.succ.inj next)

/-- The word for a truth value does not begin with an underscore. -/
theorem word_ne_underscore (b : Bool) (rest : String) : (if b then "TRUE" else "FALSE") ≠ "_" ++ rest := by
  intro same
  have chars := congrArg String.toList same
  rw [String.toList_append] at chars
  cases b <;> cases chars

namespace Scalar

/-- A scalar clashes with another one if that one clashes with it. -/
theorem clash_comm {a b : Scalar} : a.Clash b ↔ b.Clash a := by
  cases a <;> cases b <;> first | rfl | exact eq_comm

/-- A text has the same member name as a value of an enum exactly if it clashes with it. -/
theorem memberName_text_eq_iff {s : String} {b : Scalar} (enumerable : Schema.isEnumerable (.scalar b) = true) :
    (text s).memberName = b.memberName ↔ (text s).Clash b := by
  cases b with
  | text t => exact String.ofList_inj
  | bool _ | int _ => rfl
  | float x => exact iff_of_false (memberKey_ne_double s.toList x) id
  | null | moment | bytes => cases enumerable

/-- Two different scalars of an enum have the same member name exactly if they clash. -/
theorem memberName_eq_iff {a b : Scalar}
    (enumerable : Schema.isEnumerable (.scalar a) = true ∧ Schema.isEnumerable (.scalar b) = true)
    (apart : a ≠ b) : a.memberName = b.memberName ↔ a.Clash b := by
  have toText {a : Scalar} {s : String} (enumerable : Schema.isEnumerable (.scalar a) = true) :
      a.memberName = (text s).memberName ↔ a.Clash (text s) :=
    eq_comm.trans ((memberName_text_eq_iff enumerable).trans clash_comm)
  -- Without a text there is no clash, and the names are as different as what they are made of.
  cases a with
  | text s => exact memberName_text_eq_iff enumerable.2
  | null | moment | bytes => cases enumerable.1
  | bool first =>
    cases b with
    | text s => exact toText enumerable.1
    | null | moment | bytes => cases enumerable.2
    | bool second =>
      refine iff_of_false (fun equal => apart ?_) id
      cases first <;> cases second <;> first | rfl | exact absurd equal (by decide)
    | int n => exact iff_of_false (word_ne_underscore first _) id
    | float x => exact iff_of_false (word_ne_underscore first _) id
  | int n =>
    cases b with
    | text s => exact toText enumerable.1
    | null | moment | bytes => cases enumerable.2
    | bool second => exact iff_of_false (fun equal => word_ne_underscore second _ equal.symm) id
    | int m =>
      refine iff_of_false (fun equal => apart ?_) id
      rw [toString_int_inj ((String.append_right_inj "_").mp equal)]
    | float x =>
      exact iff_of_false (fun equal => toString_ne_double n x ((String.append_right_inj "_").mp equal)) id
  | float x =>
    cases b with
    | text s => exact toText enumerable.1
    | null | moment | bytes => cases enumerable.2
    | bool second => exact iff_of_false (fun equal => word_ne_underscore second _ equal.symm) id
    | int m =>
      exact iff_of_false (fun equal => toString_ne_double m x ((String.append_right_inj "_").mp equal.symm)) id
    | float y =>
      refine iff_of_false (fun equal => apart ?_) id
      rw [Double.text_injective ((String.append_right_inj "_").mp equal)]

end Scalar

/-- Two different values of an enum are given the same member name exactly if they clash. -/
theorem Value.memberName_eq_iff {v w : Value}
    (enumerable : Schema.isEnumerable v = true ∧ Schema.isEnumerable w = true)
    (apart : v.same w = false) : v.memberName = w.memberName ↔ v.Clash w := by
  cases v with
  | scalar a =>
    cases w with
    | scalar b =>
      refine Scalar.memberName_eq_iff enumerable fun equal => ?_
      subst equal
      exact absurd (Schema.same_self_of_isEnumerable enumerable.1) (Bool.eq_false_iff.mp apart)
    | _ => cases enumerable.2
  | _ => cases enumerable.1

end Names

end TypedClient
