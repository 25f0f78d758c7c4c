import Mathlib.Algebra.GroupWithZero.Nat
import Mathlib.Data.List.Infix
import TypedClient.Text.Search

/-! Where texts occur in others, and how often they do once pairs of characters have been replaced. -/

namespace TypedClient.Text

/-- The number of places of a text from which on it is as asked. -/
def places (asked : List Char → Bool) (cs : List Char) : Nat :=
  cs.tails.countP asked

/-- The number of places at which a part begins in a text. -/
def occurrences (part cs : List Char) : Nat :=
  places part.isPrefixOf cs

variable {a b c : Char} {asked : List Char → Bool}

/-- The first place of a text comes before all others. -/
theorem places_cons (asked : List Char → Bool) (c : Char) (cs : List Char) :
    places asked (c :: cs) = places asked cs + if asked (c :: cs) then 1 else 0 := by
  rw [places, List.tails_cons, List.countP_cons, ← places]

/-- There is no such place in a text exactly if no end of it is as asked. -/
theorem places_eq_zero {cs : List Char} :
    places asked cs = 0 ↔ ∀ before rest, cs = before ++ rest → asked rest = false := by
  simp only [places, List.countP_eq_zero, List.mem_tails, Bool.not_eq_true]
  constructor
  · rintro none before rest rfl
    exact none rest (List.suffix_append before rest)
  · rintro none rest ⟨before, rfl⟩
    exact none before rest rfl

/-- A pair begins a text whose first characters are the two. -/
theorem isPrefixOf_pair (a b c : Char) (cs : List Char) :
    [a, b].isPrefixOf (c :: cs) = (a == c && cs.head? == some b) := by
  cases cs with
  | nil => simp [List.isPrefixOf]
  | cons d cs => simp [List.isPrefixOf, BEq.comm]

/-- Nothing occurs in an empty text but an empty one. -/
@[simp] theorem occurrences_nil : occurrences [a, b] [] = 0 :=
  rfl

/-- A pair occurs once more if it begins the text. -/
theorem occurrences_cons (a b c : Char) (cs : List Char) :
    occurrences [a, b] (c :: cs)
      = occurrences [a, b] cs + if a = c ∧ cs.head? = some b then 1 else 0 := by
  rw [occurrences, places_cons, isPrefixOf_pair]
  simp [occurrences]

/-- A pair occurs in a text and in what follows it, and not across the seam unless it ends there. -/
theorem occurrences_append {cs ds : List Char} (seam : ds.head? ≠ some b) :
    occurrences [a, b] (cs ++ ds) = occurrences [a, b] cs + occurrences [a, b] ds := by
  induction cs with
  | nil => simp
  | cons c cs ih =>
    -- What follows a character is the same with the second text as without it, apart from its end.
    have next : (cs ++ ds).head? = some b ↔ cs.head? = some b := by
      cases cs with
      | nil => simp [seam]
      | cons d cs => simp
    rw [List.cons_append, occurrences_cons, occurrences_cons, ih, if_congr (and_congr_right' next) rfl rfl]
    omega

/-- A text without the first character of a pair adds nothing to how often the pair occurs. -/
theorem occurrences_append_left {cs : List Char} (absent : a ∉ cs) (ds : List Char) :
    occurrences [a, b] (cs ++ ds) = occurrences [a, b] ds := by
  induction cs with
  | nil => rfl
  | cons c cs ih =>
    obtain ⟨other, absent⟩ := List.ne_and_not_mem_of_not_mem_cons absent
    rw [List.cons_append, occurrences_cons, ih absent, if_neg fun begins => other begins.1]
    rfl

/-- Between texts with a separator that is no part of it, a pair occurs in each of them only. -/
theorem occurrences_intercalate (first : a ≠ c) (second : b ≠ c) (parts : List (List Char)) :
    occurrences [a, b] ([c].intercalate parts) = (parts.map (occurrences [a, b])).sum := by
  induction parts with
  | nil => rfl
  | cons part rest ih =>
    cases rest with
    | nil => simp
    | cons next rest =>
      have seam : ([c] ++ [c].intercalate (next :: rest)).head? ≠ some b := by simpa using second.symm
      rw [List.intercalate_cons_cons, List.append_assoc, occurrences_append seam, List.singleton_append,
        occurrences_cons, if_neg fun begins => first begins.1, ih]
      simp only [List.map_cons, List.sum_cons]
      omega

/-- Splitting at a character is what it is for lists in general. -/
theorem splitOn_eq (separator : Char) (cs : List Char) : splitOn separator cs = cs.splitOn separator := by
  induction cs with
  | nil => simp [splitOn]
  | cons c cs ih =>
    rw [splitOn, ih, List.splitOn_eq_splitOnP, List.splitOn_eq_splitOnP,
      List.splitOnP_cons_eq_if_modifyHead]
    -- The character opens a new part, or comes in front of the first one.
    split
    · rfl
    · cases parts : cs.splitOnP (· == separator) with
      | nil => exact absurd parts (List.splitOnP_ne_nil _ _)
      | cons part rest => rfl

/-- What is in a text after a replacement was in it before, or comes with the replacement. -/
theorem mem_replaceFrom {old new cs : List Char} {skip : Nat} (mem : c ∈ replaceFrom old new skip cs) :
    c ∈ new ∨ c ∈ cs := by
  fun_induction replaceFrom old new skip cs with
  | case1 => exact .inr mem
  | case2 skip d rest ih => exact (ih mem).imp_right (List.mem_cons_of_mem d)
  | case3 d rest _ ih =>
    rcases List.mem_append.mp mem with inside | later
    · exact .inl inside
    · exact (ih later).imp_right (List.mem_cons_of_mem d)
  | case4 d rest _ ih =>
    rcases List.mem_cons.mp mem with rfl | later
    · exact .inr List.mem_cons_self
    · exact (ih later).imp_right (List.mem_cons_of_mem d)

/-- A pair of characters is replaced where it begins a text. -/
theorem replaceAll_pair (a b : Char) (new cs : List Char) :
    replaceAll [a, b] new (a :: b :: cs) = new ++ replaceAll [a, b] new cs := by
  simp [replaceAll, replaceFrom, List.isPrefixOf]

/-- A character with which no pair begins is kept. -/
theorem replaceAll_cons {cs : List Char} (new : List Char) (other : ¬(a = c ∧ cs.head? = some b)) :
    replaceAll [a, b] new (c :: cs) = c :: replaceAll [a, b] new cs := by
  rw [replaceAll, replaceFrom, isPrefixOf_pair, if_neg (by simpa using other), replaceAll]

/-- A text without the first character of a pair is kept in front of any other. -/
theorem replaceAll_append_left {cs : List Char} (new : List Char) (absent : a ∉ cs) (ds : List Char) :
    replaceAll [a, b] new (cs ++ ds) = cs ++ replaceAll [a, b] new ds := by
  induction cs with
  | nil => rfl
  | cons c cs ih =>
    obtain ⟨other, absent⟩ := List.ne_and_not_mem_of_not_mem_cons absent
    rw [List.cons_append, replaceAll_cons _ fun begins => other begins.1, ih absent, List.cons_append]

/-- What replacing does to the pieces of a text, it does to the text, if no piece runs into the next one. -/
theorem replaceAll_flatMap (old new : List Char) {f g : Char → List Char}
    (each : ∀ c rest, replaceAll old new (f c ++ rest) = g c ++ replaceAll old new rest)
    (cs : List Char) : replaceAll old new (cs.flatMap f) = cs.flatMap g := by
  induction cs with
  | nil => rfl
  | cons c rest ih => rw [List.flatMap_cons, each, ih, List.flatMap_cons]

/-- What holds of the empty text, and of a text if it holds of what follows the pair at its start, or of
what follows its first character if no pair stands there, holds of every text. -/
theorem pair_induction {P : List Char → Prop} (a b : Char) (nil : P [])
    (pair : ∀ cs, P cs → P (a :: b :: cs))
    (cons : ∀ c cs, ¬(a = c ∧ cs.head? = some b) → P cs → P (c :: cs)) (cs : List Char) : P cs := by
  match cs with
  | [] => exact nil
  | [c] => exact cons c [] (by simp) nil
  | c :: d :: rest =>
    by_cases begins : a = c ∧ b = d
    · obtain ⟨rfl, rfl⟩ := begins
      exact pair rest (pair_induction a b nil pair cons rest)
    · refine cons c (d :: rest) ?_ (pair_induction a b nil pair cons (d :: rest))
      rintro ⟨first, second⟩
      exact begins ⟨first, (Option.some_inj.mp second).symm⟩

/-- A text that is put between pieces is found again in what comes of it, if there are several pieces. -/
theorem intercalate_inj {pieces : List (List Char)} (several : 2 ≤ pieces.length) {s t : List Char}
    (same : s.intercalate pieces = t.intercalate pieces) : s = t := by
  -- Between the pieces the text stands as often as there are pieces, less one.
  have length (sep : List Char) (pieces : List (List Char)) : (sep.intercalate pieces).length
      = (pieces.map List.length).sum + (pieces.length - 1) * sep.length := by
    induction pieces with
    | nil => simp
    | cons piece rest ih =>
      cases rest with
      | nil => simp
      | cons next rest =>
        rw [List.intercalate_cons_cons, List.length_append, List.length_append, ih]
        simp only [List.map_cons, List.sum_cons, List.length_cons, Nat.add_sub_cancel, Nat.add_mul]
        omega
  have sameLength : s.length = t.length := by
    have lengths := congrArg List.length same
    rw [length, length] at lengths
    exact Nat.eq_of_mul_eq_mul_left (by omega) (Nat.add_left_cancel lengths)
  match pieces, several with
  | piece :: next :: rest, _ =>
    rw [List.intercalate_cons_cons, List.intercalate_cons_cons, List.append_assoc, List.append_assoc,
      List.append_cancel_left_eq] at same
    exact List.append_inj_left same sameLength

/-- A part occurs in a text where it stands without a gap. -/
theorem occurs_iff_infix {part cs : List Char} : occurs part cs = true ↔ part <:+: cs := by
  induction cs with
  | nil => simp [occurs]
  | cons c rest ih =>
    -- The part begins with the text, or it stands in the rest of it.
    rw [occurs, Bool.or_eq_true, List.isPrefixOf_iff_prefix, ih, List.infix_cons_iff]

/-- Replacing leaves pieces of a text that do not depend on what it puts between them, and several of
them if there was something to replace. -/
theorem exists_pieces (old : List Char) (skip : Nat) (cs : List Char) :
    ∃ pieces : List (List Char), pieces ≠ [] ∧
      (∀ new, replaceFrom old new skip cs = new.intercalate pieces) ∧
      (skip = 0 → old ≠ [] → occurs old cs = true → 2 ≤ pieces.length) := by
  -- An occurrence is skipped character by character, so the number of these stays quantified over.
  induction cs generalizing skip with
  | nil =>
    refine ⟨[[]], by simp, by simp [replaceFrom], fun _ nonempty found => ?_⟩
    simp [occurs, nonempty] at found
  | cons c rest ih =>
    cases skip with
    | succ skip =>
      obtain ⟨pieces, some, same, -⟩ := ih skip
      exact ⟨pieces, some, same, by simp⟩
    | zero =>
      by_cases begins : old.isPrefixOf (c :: rest) = true
      · -- The occurrence ends an empty piece.
        obtain ⟨pieces, some, same, -⟩ := ih (old.length - 1)
        obtain ⟨piece, pieces, rfl⟩ := List.exists_cons_of_ne_nil some
        refine ⟨[] :: piece :: pieces, by simp, fun new => ?_, by simp⟩
        rw [replaceFrom, if_pos begins, same, List.intercalate_cons_cons, List.nil_append]
      · -- The character belongs to the first piece of what follows.
        obtain ⟨pieces, some, same, several⟩ := ih 0
        obtain ⟨piece, pieces, rfl⟩ := List.exists_cons_of_ne_nil some
        refine ⟨(c :: piece) :: pieces, by simp, fun new => ?_, fun _ nonempty found => ?_⟩
        · rw [replaceFrom, if_neg begins, same]
          cases pieces <;> simp
        · have later : occurs old rest = true := by simpa [occurs, begins] using found
          simpa using several rfl nonempty later

/-- Where something is replaced, what comes of it tells what it is replaced by. -/
theorem replaceAll_inj {old cs s t : List Char} (nonempty : old ≠ []) (found : occurs old cs = true)
    (same : replaceAll old s cs = replaceAll old t cs) : s = t := by
  obtain ⟨pieces, -, between, several⟩ := exists_pieces old 0 cs
  rw [replaceAll, replaceAll, between, between] at same
  exact intercalate_inj (several rfl nonempty found) same

/-- Nothing follows the head in a text that does not begin with it. -/
theorem afterHead?_eq_none_iff {head cs : List Char} : afterHead? head cs = none ↔ ¬ head <+: cs := by
  fun_induction afterHead? head cs with
  | case1 => simp
  | case2 => simp
  | case3 h head c cs same ih => simp_all [List.cons_prefix_cons]
  | case4 h head c cs other => simp_all [List.cons_prefix_cons]

end TypedClient.Text
