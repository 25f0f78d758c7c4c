import TypedClient.Operation.Name
import TypedClient.Proofs.Name.Sanitized
import TypedClient.Proofs.Text.Ascii
import TypedClient.Proofs.Text.Search

/-! The names of parameters in generated code that are made from names in ASCII. -/

namespace TypedClient.Name

open Text (isIdentifierPart capitalize toLower)

/-- A text begins with a small letter and goes on with letters and digits, all of the ASCII alphabet. -/
def IsStem (cs : List Char) : Prop :=
  ∃ first rest, cs = first :: rest ∧ first.isLower = true ∧ ∀ c ∈ rest, c.isAlphanum = true

variable {cs : List Char} {c : Char} {words : List (List Char)}

/-- The letters of ASCII are those of its alphabet, and identifiers are made of these, digits and two marks. -/
theorem facts_of_ascii (small : c.toNat < 128) : (c ≠ '_' ∧ Text.isLetterLike c = true ↔ c.isAlpha = true) ∧
    (isIdentifierPart c = true → c.isAlphanum = true ∨ c = '_' ∨ c = '$') := by
  apply Text.of_codes (c := c) ?_ small
  decide +kernel

/-- There is a letter in a text of ASCII exactly if there is one of the alphabet. -/
theorem hasLetter_iff (ascii : ∀ c ∈ cs, c.toNat < 128) : HasLetter cs ↔ ∃ c ∈ cs, c.isAlpha = true :=
  exists_congr fun c => and_congr_right fun mem => (facts_of_ascii (ascii c mem)).1

/-- A hyphenated text of ASCII is made of letters, digits and separators. -/
theorem isAlphanum_of_mem_hyphenated (ascii : ∀ c ∈ cs, c.toNat < 128) (mem : c ∈ hyphenated cs) :
    isSeparator c = true ∨ c.isAlphanum = true := by
  have smaller (p : Char → Bool) : ∀ c ∈ cs.dropWhile p, c.toNat < 128 :=
    fun c mem => ascii c ((List.dropWhile_sublist p).subset mem)
  have unmarked (p : Char → Bool) : Text.mark ∉ cs.dropWhile p :=
    fun mem => absurd (smaller p _ mem) (by rw [Text.toNat_mark]; decide)
  simp only [hyphenated, legalized_eq_map (unmarked _), List.map_map, List.mem_map, Function.comp_apply] at mem
  obtain ⟨d, inside, rfl⟩ := mem
  have cases := (facts_of_ascii (smaller _ d inside)).2
  have hyphen : isSeparator '-' = true := rfl
  have underscore : isSeparator '_' = true := rfl
  grind

/-- Words of letters and digits are joined to a text of these. -/
theorem isAlphanum_joinCamel (pascal : Bool) (all : ∀ w ∈ words, ∀ c ∈ w, c.isAlphanum = true) :
    ∀ c ∈ joinCamel pascal words, c.isAlphanum = true := by
  cases words with
  | nil => exact fun c mem => absurd mem List.not_mem_nil
  | cons head tail =>
    obtain ⟨first, others⟩ := List.forall_mem_cons.mp all
    refine List.forall_mem_append.mpr ⟨?_, fun c mem => ?_⟩
    · split
      · exact Text.isAlphanum_capitalize first
      · exact first
    · obtain ⟨w, listed, inside⟩ := List.mem_flatMap.mp mem
      exact Text.isAlphanum_capitalize (others w listed) c inside

/-- A text of letters, digits and separators is put in camel case with its first letter small. -/
theorem isStem_camel (all : ∀ c ∈ unseparated cs, c.isAlphanum = true) {first : Char} {rest : List Char}
    (begins : unseparated cs = first :: rest) (letter : first.isAlpha = true) : IsStem (camel false cs) := by
  obtain ⟨parts, lowered, whole, nonempty⟩ := exists_words cs
  rw [← whole, List.forall_mem_flatten] at all
  have alphanumeric : ∀ c ∈ camel false cs, c.isAlphanum = true := by
    rw [camel, lowered]
    exact isAlphanum_joinCamel false (List.forall_mem_map.mpr fun w mem => Text.isAlphanum_toLower (all w mem))
  -- The text begins with its first word, so the letter in front is the one of that word.
  rw [begins] at whole
  obtain _ | ⟨_ | ⟨d, w⟩, parts⟩ := parts
  · cases whole
  · exact absurd rfl (nonempty [] List.mem_cons_self)
  · obtain ⟨rfl, -⟩ := List.cons.inj whole
    have ascii : ∀ c ∈ d :: w, c.toNat < 128 := fun c mem => Text.lt_of_isAlphanum (all _ List.mem_cons_self c mem)
    have form : camel false cs = d.toLower :: (w.map Char.toLower ++ (parts.map toLower).flatMap capitalize) := by
      rw [camel, lowered, List.map_cons, Text.toLower_of_ascii ascii]
      rfl
    have small : d.toLower.isLower = true :=
      (Text.cases_of_ascii (ascii d List.mem_cons_self)).2.2.1.trans letter
    exact ⟨d.toLower, _, form, small, fun c mem => alphanumeric c (form ▸ List.mem_cons_of_mem _ mem)⟩

/-- A text of ASCII with a letter gives a stem in camel case, and one without gives nothing. -/
theorem camel_hyphenated_cases (ascii : ∀ c ∈ cs, c.toNat < 128) :
    (¬ HasLetter cs ∧ camel false (hyphenated cs) = []) ∨ HasLetter cs ∧ IsStem (camel false (hyphenated cs)) := by
  obtain ⟨without, none⟩ | ⟨letter, first, rest, begins, other, isLetter⟩ := hyphenated_cases cs
  · refine .inl ⟨without, ?_⟩
    rw [none]
    rfl
  · have solid := isSeparator_of_isLetterLike other isLetter
    have all : ∀ c ∈ unseparated (hyphenated cs), c.isAlphanum = true :=
      forall_mem_unseparated.mpr fun c => isAlphanum_of_mem_hyphenated ascii
    have start : unseparated (hyphenated cs) = first :: unseparated rest := by simp [begins, unseparated, solid]
    have small := Text.lt_of_isAlphanum (all first (by simp [start]))
    exact .inr ⟨letter, isStem_camel all start ((facts_of_ascii small).1.mp ⟨other, isLetter⟩)⟩

end TypedClient.Name

namespace TypedClient

open Name (IsStem IsLegalName HasLetter reservedWords)

/-- The name of a parameter is empty exactly if there is no letter in its name on the wire, with a pair of brackets read
as a word, and otherwise it begins with a small letter and goes on with letters and digits, and with an underscore if
that would be a reserved word. -/
theorem parameterName_of_ascii (wire : String) (ascii : ∀ c ∈ wire.toList, c.toNat < 128) :
    ∃ name, parameterName (.text wire) = .ok name ∧
      (name = "" ↔ ∀ c ∈ Text.replaceAll ['[', ']'] "Array".toList wire.toList, c.isAlpha = false) ∧
      (name ≠ "" → IsLegalName name ∧ ∃ stem : String, IsStem stem.toList ∧
        (name = stem ∧ stem ∉ reservedWords ∨ name = stem ++ "_" ∧ stem ∈ reservedWords)) := by
  generalize spelled : Text.replaceAll ['[', ']'] "Array".toList wire.toList = spelling
  have small : ∀ c ∈ spelling, c.toNat < 128 := by
    intro c mem
    rw [← spelled] at mem
    have word : ∀ c ∈ "Array".toList, c.toNat < 128 := by simp
    exact (Text.mem_replaceFrom mem).elim (word c) (ascii c)
  have letters := Name.hasLetter_iff small
  have named := Name.isIdentifierName_camel_hyphenated spelling
  have shape := Name.camel_hyphenated_cases small
  have made : parameterName (.text wire) =
      .ok (escapeReserved (String.ofList (Name.camel false (Name.hyphenated spelling)))) := by
    rw [← spelled, ← String.toList_ofList (l := Name.hyphenated _)]
    rfl
  refine ⟨_, made, ?_⟩
  generalize stemmed : String.ofList (Name.camel false (Name.hyphenated spelling)) = stem at named
  rw [← String.toList_ofList (l := Name.camel _ _), stemmed] at shape
  obtain ⟨without, none⟩ | ⟨letter, plain⟩ := shape
  · -- Nothing is left of a name without a letter.
    obtain rfl := String.toList_eq_nil_iff.mp none
    have empty : escapeReserved "" = "" := by decide +kernel
    refine ⟨iff_of_true empty fun c mem => ?_, absurd empty⟩
    exact Bool.eq_false_iff.mpr fun alpha => without (letters.mpr ⟨c, mem, alpha⟩)
  · have legal := Name.isLegalName_escapeReserved_iff.mpr (named.mpr letter)
    have nonempty : escapeReserved stem ≠ "" := by
      intro empty
      rw [empty] at legal
      cases legal.identifier
    refine ⟨iff_of_false nonempty fun none => ?_, fun _ => ⟨legal, stem, plain, ?_⟩⟩
    · obtain ⟨c, mem, alpha⟩ := letters.mp letter
      cases (none c mem).symm.trans alpha
    · rw [escapeReserved]
      split
      · next reserved => exact .inr ⟨rfl, List.contains_iff_mem.mp reserved⟩
      · next free => exact .inl ⟨rfl, mt List.contains_iff_mem.mpr free⟩

/-- A name on the wire with marks around a reserved word, and one that has no letter. -/
theorem parameterName_of_ascii_reserved : parameterName (.text "[$delete]") = .ok "delete_" ∧ IsLegalName "delete_" ∧
    (∃ stem : String, IsStem stem.toList ∧
      ("delete_" = stem ∧ stem ∉ reservedWords ∨ "delete_" = stem ++ "_" ∧ stem ∈ reservedWords)) ∧
      parameterName (.text "_1.[2]") = .ok "" := by
  obtain ⟨name, made, -, shape⟩ := parameterName_of_ascii "[$delete]" (by simp)
  obtain ⟨other, none, empty, -⟩ := parameterName_of_ascii "_1.[2]" (by simp)
  have named : parameterName (.text "[$delete]") = .ok "delete_" := rfl
  obtain rfl := Except.ok.inj (made.symm.trans named)
  have kept : Text.replaceAll ['[', ']'] "Array".toList "_1.[2]".toList = "_1.[2]".toList := by decide +kernel
  have letterless : ("_1.[2]".toList.all fun c => !c.isAlpha) = true := by decide +kernel
  rw [none, empty.mpr fun c mem => by simpa using List.all_eq_true.mp letterless c (kept ▸ mem)]
  exact ⟨named, (shape (by decide)).1, (shape (by decide)).2, rfl⟩

end TypedClient
