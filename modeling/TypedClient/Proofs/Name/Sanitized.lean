import TypedClient.Proofs.Name.Identifier

/-! The identifiers that names are made into: what they are like, and which names are kept as they stand. -/

namespace TypedClient.Name

open Text (isBlank isIdentifierStart isIdentifierPart)
open TypeScript (isIdentifierName)

/-- A text is as identifiers are made: it begins as one may, nothing in it is illegal in one, and no underscore
follows another. -/
structure IsSanitized (cs : List Char) : Prop where
  nonempty : cs ≠ []
  start : ∀ c ∈ cs.head?, isIdentifierStart c = true
  parts : ∀ c ∈ cs, isIdentifierPart c = true
  single : cs.IsChain fun a b => ¬(a = '_' ∧ b = '_')

variable {cs : List Char} {c : Char}

/-- No identifier may hold a blank, nor the mark of half of a pair. -/
theorem illegal_in_identifiers : (isBlank c = true → isIdentifierPart c = false) ∧
    isIdentifierPart Text.mark = false := by
  have none : (∀ range ∈ Text.blankRanges, Text.spansNone Text.partRanges range.1 range.2 = true) ∧
      isIdentifierPart Text.mark = false := by decide +kernel
  refine ⟨fun blank => ?_, none.2⟩
  obtain ⟨range, mem, above, below⟩ := (Text.inRanges_iff_within (by decide)).mp blank
  have outside := Text.not_within_of_spansNone (none.1 range mem) above below
  exact Bool.eq_false_iff.mpr (mt Text.isIdentifierPart_iff_within.mp outside)

/-- Without a mark, each character that is illegal is replaced by itself. -/
theorem legalized_eq_map (unmarked : Text.mark ∉ cs) (replacement : Char) :
    legalized replacement cs = cs.map fun c => if isIdentifierPart c then c else replacement := by
  rw [legalized, Text.codes_eq_map unmarked, List.map_map]
  exact List.map_congr_left fun c _ => by simp

/-- What holds nothing illegal is kept when what is illegal is replaced. -/
theorem legalized_eq_self (parts : ∀ c ∈ cs, isIdentifierPart c = true) (replacement : Char) :
    legalized replacement cs = cs := by
  have unmarked : Text.mark ∉ cs := fun mem => by
    cases (illegal_in_identifiers (c := Text.mark)).2.symm.trans (parts _ mem)
  rw [legalized_eq_map unmarked]
  exact (List.map_congr_left fun c mem => if_pos (parts c mem)).trans (List.map_id cs)

/-- No underscore follows another once runs of them are made single ones. -/
theorem isChain_collapsed (cs : List Char) : (collapsed cs).IsChain fun a b => ¬(a = '_' ∧ b = '_') := by
  fun_induction collapsed cs with
  | case1 => exact .nil
  | case2 _ _ _ ih => exact ih
  | case3 c rest other ih =>
    refine List.isChain_cons.mpr ⟨fun d mem => ?_, ih⟩
    -- What follows begins as it did before.
    rw [(collapsed_facts rest).2] at mem
    rintro ⟨rfl, rfl⟩
    simp [Option.mem_def.mp mem] at other

/-- A text in which no underscore follows another has no run to be made a single one. -/
theorem collapsed_eq_self (single : cs.IsChain fun a b => ¬(a = '_' ∧ b = '_')) : collapsed cs = cs := by
  fun_induction collapsed cs with
  | case1 => rfl
  | case2 c rest run =>
    simp only [Bool.and_eq_true, beq_iff_eq] at run
    exact absurd ⟨run.1, rfl⟩ ((List.isChain_cons.mp single).1 '_' run.2)
  | case3 c rest _ ih => rw [ih single.tail]

/-- Whatever a name is made of, what is made of it is as identifiers are made. -/
theorem isSanitized_identifier (cs : List Char) : IsSanitized (identifier cs) := by
  -- But for runs of underscores, all of it says that the identifier is legal.
  have legal : isIdentifierName (String.ofList (identifier cs)) = true := by
    simpa [sanitizeIdentifier] using isIdentifierName_sanitizeIdentifier (String.ofList cs)
  obtain ⟨start, parts⟩ := isIdentifierName_iff.mp legal
  obtain ⟨c, head, begins⟩ := Option.map_eq_some_iff.mp start
  refine ⟨?_, ?_, parts, ?_⟩
  · rintro none
    simp [none] at head
  · rintro d mem
    rwa [← Option.some.inj (head.symm.trans mem)]
  · rw [identifier]
    split
    · decide
    · exact isChain_collapsed _

/-- A text that is as identifiers are made is its own identifier. -/
theorem identifier_eq_self (sanitized : IsSanitized cs) : identifier cs = cs := by
  obtain ⟨nonempty, start, parts, single⟩ := sanitized
  have solid : ∀ c ∈ cs, isBlank c = false := fun c mem =>
    Bool.eq_false_iff.mpr fun blank => by cases (illegal_in_identifiers.1 blank).symm.trans (parts c mem)
  have begun : startable cs = cs := by
    cases cs with
    | nil => rfl
    | cons c rest => rw [startable, if_pos (start c rfl)]
  have kept : Text.trim cs = cs := Text.trim_eq_self (fun c mem => solid c (List.mem_of_mem_head? mem))
    fun c mem => solid c (List.mem_of_getLast? mem)
  -- None of the steps finds anything to do.
  rw [identifier, kept, legalized_eq_self parts, begun, collapsed_eq_self single]
  simp [nonempty]

/-- What is made of a name is as identifiers are made, and exactly the names that already are so are kept as they
stand; so nothing changes when it is made again. -/
theorem isSanitized_and_eq_self_iff (raw : String) :
    IsSanitized (sanitizeIdentifier raw).toList ∧
      (sanitizeIdentifier raw = raw ↔ IsSanitized raw.toList) ∧
      sanitizeIdentifier (sanitizeIdentifier raw) = sanitizeIdentifier raw := by
  have sound (name : String) : IsSanitized (sanitizeIdentifier name).toList := by
    rw [sanitizeIdentifier, String.toList_ofList]
    exact isSanitized_identifier _
  have fixed {name : String} (sanitized : IsSanitized name.toList) : sanitizeIdentifier name = name := by
    rw [sanitizeIdentifier, identifier_eq_self sanitized, String.ofList_toList]
  refine ⟨sound raw, ⟨fun same => ?_, fixed⟩, fixed (sound raw)⟩
  rw [← same]
  exact sound raw

/-- Blanks around a name are left out, a digit in front is set off, and a run of what is illegal is one underscore. -/
example : sanitizeIdentifier " 2nd  pet!-name\u00a0" = "_2nd_pet_name" := by decide +kernel

end TypedClient.Name
