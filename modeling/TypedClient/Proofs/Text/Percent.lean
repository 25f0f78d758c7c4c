import Mathlib.Data.List.SplitBy
import TypedClient.Text.Percent

/-! Percent decoding leaves a text without escapes as it is, and undoes the escapes of one. -/

namespace TypedClient.Text

/-- Without a percent sign, every character stands for itself. -/
theorem unescapeBytes_eq_map {cs : List Char} (plain : '%' ∉ cs) :
    unescapeBytes cs = cs.map Char.toNat := by
  induction cs with
  | nil => rfl
  | cons c rest ih =>
    rw [unescapeBytes, ih fun later => plain (List.mem_cons_of_mem _ later), List.map_cons]
    rintro high low more rfl
    exact absurd List.mem_cons_self plain

/-- A byte of ASCII is a character of its own. -/
theorem decodeUtf8_map_toNat {cs : List Char} (ascii : ∀ c ∈ cs, c.toNat < 0x80) :
    decodeUtf8 none (cs.map Char.toNat) = cs := by
  induction cs with
  | nil => rfl
  | cons c rest ih =>
    obtain ⟨small, later⟩ := List.forall_mem_cons.mp ascii
    simp [decodeUtf8, startCharacter, small, ih later]

/-- Whether a character is one of ASCII. -/
def isAscii (c : Char) : Bool :=
  c.toNat < 0x80

variable {escape : Char → List Char} {cs run : List Char}

/-- The characters of a run are all ASCII or all beyond it. -/
theorem isAscii_of_mem_asciiRuns (mem : run ∈ asciiRuns cs) {c d : Char} (first : c ∈ run)
    (second : d ∈ run) : isAscii c = isAscii d := by
  -- Each character is like the one before it.
  have chain : (run.map isAscii).IsChain Eq := by
    rw [List.isChain_map]
    exact (List.isChain_of_mem_splitBy mem).imp fun a b alike => eq_of_beq alike
  have all := chain.pairwise.forall_of_forall fun _ _ => rfl
  exact all (List.mem_map_of_mem first) (List.mem_map_of_mem second)

/-- A run of characters is all ASCII if its first one is. -/
theorem ascii_of_mem_asciiRuns {cs rest : List Char} {c : Char} (mem : c :: rest ∈ asciiRuns cs)
    (ascii : c.toNat < 0x80) : ∀ d ∈ c :: rest, d.toNat < 0x80 := by
  intro d inside
  have alike := isAscii_of_mem_asciiRuns mem inside List.mem_cons_self
  simpa [isAscii, ascii] using alike

/-- A text without a percent sign holds no escapes. -/
theorem percentDecode_eq_self {cs : List Char} (plain : '%' ∉ cs) : percentDecode cs = cs := by
  have whole : (asciiRuns cs).flatten = cs := List.flatten_splitBy _ _
  -- Decoding goes run by run, and a run that is not all ASCII is left alone anyway.
  conv_rhs => rw [← whole, ← List.flatMap_id']
  refine List.flatMap_congr fun run mem => ?_
  cases run with
  | nil => rfl
  | cons c rest =>
    dsimp only
    split
    · next ascii =>
      have unescaped : '%' ∉ c :: rest := fun inside =>
        plain (whole ▸ List.mem_flatten_of_mem mem inside)
      rw [unescapeBytes_eq_map unescaped, decodeUtf8_map_toNat (ascii_of_mem_asciiRuns mem ascii)]
    · rfl

/-- Escapes of ASCII by ASCII leave the runs of a text where they are. -/
theorem asciiRuns_flatMap (some : ∀ c, escape c ≠ [])
    (alike : ∀ c, ∀ d ∈ escape c, isAscii d = isAscii c) (cs : List Char) :
    asciiRuns (cs.flatMap escape) = (asciiRuns cs).map fun run => run.flatMap escape := by
  -- All that an escaped run holds is like any character that the run holds.
  have like : ∀ run ∈ asciiRuns cs, ∀ c ∈ run, ∀ d ∈ run.flatMap escape, isAscii d = isAscii c := by
    intro run mem c first d second
    obtain ⟨e, inside, written⟩ := List.mem_flatMap.mp second
    exact (alike e d written).trans (isAscii_of_mem_asciiRuns mem inside first)
  have nonempty : ∀ run ∈ asciiRuns cs, run.flatMap escape ≠ [] := by
    intro run mem
    obtain ⟨c, rest, rfl⟩ := List.exists_cons_of_ne_nil (List.ne_nil_of_mem_splitBy mem)
    simp [some c]
  have whole : cs.flatMap escape = ((asciiRuns cs).map fun run => run.flatMap escape).flatten := by
    conv_lhs => rw [← List.flatten_splitBy (fun a b : Char => (a.toNat < 0x80) == (b.toNat < 0x80)) cs]
    rw [List.flatMap_def, List.map_flatten, List.flatten_flatten, List.map_map]
    rfl
  -- The runs of a text are its only parts that are not empty, of one kind each, and change kind where they meet.
  rw [asciiRuns, List.splitBy_eq_iff]
  refine ⟨whole, ?_, ?_, ?_⟩
  · intro mem
    obtain ⟨run, inside, empty⟩ := List.mem_map.mp mem
    exact nonempty run inside empty
  · intro escaped mem
    obtain ⟨run, inside, rfl⟩ := List.mem_map.mp mem
    obtain ⟨c, rest, rfl⟩ := List.exists_cons_of_ne_nil (List.ne_nil_of_mem_splitBy inside)
    refine (List.pairwise_of_forall_mem_list fun a first b second => ?_).isChain
    have same := like _ inside c List.mem_cons_self
    exact beq_iff_eq.mpr ((same a first).trans (same b second).symm)
  · rw [List.isChain_map]
    -- Where two runs meet, the kind of the characters changes, and so it does between the escaped ones.
    have parted := List.isChain_getLast_head_splitBy
      (fun a b : Char => (a.toNat < 0x80) == (b.toNat < 0x80)) cs
    refine parted.imp_of_mem_imp fun before after first second ⟨ha, hb, differ⟩ => ?_
    refine ⟨nonempty before first, nonempty after second, ?_⟩
    have ends := like before first _ (List.getLast_mem ha) _ (List.getLast_mem (nonempty before first))
    have starts := like after second _ (List.head_mem hb) _ (List.head_mem (nonempty after second))
    simp only [isAscii] at ends starts
    rw [ends, starts, differ]

/-- How the marks that percent decoding and pointers look at are kept from them. -/
def percentEscaped : Char → List Char
  | '%' => ['%', '2', '5']
  | '#' => ['%', '2', '3']
  | c => [c]

/-- Any other character is kept as it is. -/
theorem percentEscaped_cases (c : Char) :
    c = '%' ∨ c = '#' ∨ c ≠ '%' ∧ c ≠ '#' ∧ percentEscaped c = [c] := by
  unfold percentEscaped
  split <;> simp_all

/-- An escaped text has the bytes of the text itself. -/
theorem unescapeBytes_flatMap (cs : List Char) :
    unescapeBytes (cs.flatMap percentEscaped) = cs.map Char.toNat := by
  induction cs with
  | nil => rfl
  | cons c rest ih =>
    rw [List.flatMap_cons, List.map_cons]
    -- An escape gives its byte, and any other character its own code.
    obtain rfl | rfl | ⟨noPercent, -, same⟩ := percentEscaped_cases c
    · exact congrArg _ ih
    · exact congrArg _ ih
    · rw [same, List.singleton_append, unescapeBytes, ih]
      simp [noPercent]

/-- Percent decoding gives back the text that was escaped. -/
theorem percentDecode_flatMap (cs : List Char) : percentDecode (cs.flatMap percentEscaped) = cs := by
  have some (c : Char) : percentEscaped c ≠ [] := by
    obtain rfl | rfl | ⟨-, -, same⟩ := percentEscaped_cases c <;> simp_all [percentEscaped]
  have alike (c : Char) : ∀ d ∈ percentEscaped c, isAscii d = isAscii c := by
    obtain rfl | rfl | ⟨-, -, same⟩ := percentEscaped_cases c
    · simp [percentEscaped, isAscii]
    · simp [percentEscaped, isAscii]
    · simp [same]
  rw [percentDecode, asciiRuns_flatMap some alike, List.flatMap_map]
  -- Decoding goes run by run, and only ASCII is escaped.
  conv_rhs => rw [← List.flatten_splitBy (fun a b : Char => (a.toNat < 0x80) == (b.toNat < 0x80)) cs,
    ← List.flatMap_id']
  refine List.flatMap_congr fun run mem => ?_
  obtain ⟨c, rest, rfl⟩ := List.exists_cons_of_ne_nil (List.ne_nil_of_mem_splitBy mem)
  have like (d : Char) (inside : d ∈ c :: rest) : isAscii d = isAscii c :=
    isAscii_of_mem_asciiRuns mem inside List.mem_cons_self
  obtain ⟨d, more, head⟩ := List.exists_cons_of_ne_nil (some c)
  have first : isAscii d = isAscii c := alike c d (head ▸ List.mem_cons_self)
  cases ascii : isAscii c with
  | true =>
    -- A run of ASCII is decoded from its bytes, which are those of the text that was escaped.
    have small : d.toNat < 0x80 := by simpa [isAscii] using first.trans ascii
    have each : ∀ e ∈ c :: rest, e.toNat < 0x80 := fun e inside => by
      simpa [isAscii] using (like e inside).trans ascii
    have decoded := decodeUtf8_map_toNat each
    rw [← unescapeBytes_flatMap, List.flatMap_cons, head] at decoded
    simp only [List.flatMap_cons, head, List.cons_append] at decoded ⊢
    rwa [if_pos small]
  | false =>
    -- Any other run is kept as it is, and nothing in it has been escaped.
    have large : ¬ d.toNat < 0x80 := by simpa [isAscii] using first.trans ascii
    have kept : (c :: rest).flatMap percentEscaped = c :: rest := by
      conv_rhs => rw [← List.flatMap_singleton' (c :: rest)]
      refine List.flatMap_congr fun e inside => ?_
      have beyond := (like e inside).trans ascii
      obtain rfl | rfl | ⟨-, -, same⟩ := percentEscaped_cases e
      · cases beyond
      · cases beyond
      · exact same
    rw [List.flatMap_cons, head] at kept
    simp only [List.flatMap_cons, head, List.cons_append] at kept ⊢
    rwa [if_neg large]

end TypedClient.Text
