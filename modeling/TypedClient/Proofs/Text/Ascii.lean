import TypedClient.Proofs.Text.Case

/-! Changes of case in texts of ASCII, which are those of each character. -/

namespace TypedClient.Text

variable {c : Char} {before cs : List Char}

/-- The letters and digits are among the characters of ASCII. -/
theorem lt_of_isAlphanum (alphanumeric : c.isAlphanum = true) : c.toNat < 128 := by
  have upTo {last : UInt32} (bound : c.val ≤ last) (small : last.toNat < 128) : c.toNat < 128 :=
    lt_of_le_of_lt (UInt32.le_iff_toNat_le.mp bound) small
  obtain letter | digit := Bool.or_eq_true_iff.mp alphanumeric
  · obtain capital | small := Bool.or_eq_true_iff.mp letter
    · exact upTo (of_decide_eq_true capital).2 (by decide)
    · exact upTo (of_decide_eq_true (Bool.and_eq_true_iff.mp small).2) (by decide)
  · exact upTo (of_decide_eq_true (Bool.and_eq_true_iff.mp digit).2) (by decide)

/-- A capital is a letter. -/
theorem isAlpha_of_isUpper (capital : c.isUpper = true) : c.isAlpha = true :=
  Bool.or_eq_true_iff.mpr (.inl capital)

/-- A small letter is a letter. -/
theorem isAlpha_of_isLower (small : c.isLower = true) : c.isAlpha = true :=
  Bool.or_eq_true_iff.mpr (.inr small)

/-- The two cases of a letter are letters, and what is no letter has no case; no character of ASCII is made a letter or
digit by a change of case. -/
theorem cases_of_ascii (small : c.toNat < 128) :
    c.toLower.isAlphanum = c.isAlphanum ∧ c.toUpper.isAlphanum = c.isAlphanum ∧ c.toLower.isLower = c.isAlpha ∧
      c.toUpper.isUpper = c.isAlpha ∧
        (c.isLower = true → c.toLower = c ∧ c.toUpper.toLower = c ∧ c.toUpper.toUpper = c.toUpper) := by
  apply of_codes (c := c) ?_ small
  decide +kernel

/-- No sigma is among the characters of ASCII, so their places make no difference. -/
theorem lowerAfter_of_ascii (ascii : ∀ c ∈ cs, c.toNat < 128) : lowerAfter before cs = cs.map Char.toLower := by
  induction cs generalizing before with
  | nil => rfl
  | cons c rest ih =>
    obtain ⟨small, others⟩ := List.forall_mem_cons.mp ascii
    have other : (c == 'Σ') = false := beq_eq_false_iff_ne.mpr fun same => by
      rw [same] at small
      exact absurd small (by decide)
    rw [lowerAfter, lowerBetween, other, ih others, if_neg Bool.false_ne_true, (forms_of_ascii small).1]
    rfl

/-- A text of ASCII in lower case is that of its characters. -/
theorem toLower_of_ascii (ascii : ∀ c ∈ cs, c.toNat < 128) : toLower cs = cs.map Char.toLower :=
  lowerAfter_of_ascii ascii

/-- A capitalized text of ASCII begins with a capital, if with a letter, and goes on in lower case. -/
theorem capitalize_of_ascii (ascii : ∀ d ∈ c :: cs, d.toNat < 128) :
    capitalize (c :: cs) = c.toUpper :: cs.map Char.toLower := by
  obtain ⟨small, others⟩ := List.forall_mem_cons.mp ascii
  rw [capitalize, (forms_of_ascii small).2, lowerAfter_of_ascii others]
  rfl

/-- Letters and digits are still so in lower case. -/
theorem isAlphanum_toLower (all : ∀ c ∈ cs, c.isAlphanum = true) : ∀ c ∈ toLower cs, c.isAlphanum = true := by
  rw [toLower_of_ascii fun c mem => lt_of_isAlphanum (all c mem), List.forall_mem_map]
  exact fun c mem => (cases_of_ascii (lt_of_isAlphanum (all c mem))).1.trans (all c mem)

/-- Letters and digits are still so when they are capitalized. -/
theorem isAlphanum_capitalize (all : ∀ c ∈ cs, c.isAlphanum = true) : ∀ c ∈ capitalize cs, c.isAlphanum = true := by
  cases cs with
  | nil => exact all
  | cons first rest =>
    obtain ⟨own, others⟩ := List.forall_mem_cons.mp all
    rw [capitalize_of_ascii fun c mem => lt_of_isAlphanum (all c mem), List.forall_mem_cons, List.forall_mem_map]
    exact ⟨(cases_of_ascii (lt_of_isAlphanum own)).2.1.trans own,
      fun c mem => (cases_of_ascii (lt_of_isAlphanum (others c mem))).1.trans (others c mem)⟩

end TypedClient.Text
