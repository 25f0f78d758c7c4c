import Mathlib.Data.List.TakeWhile
import TypedClient.Text.Blank

/-! Trimming: which blanks of a text are cut off, and which of them stay. -/

namespace TypedClient.Text

/-- Trimming the end adds nothing. -/
theorem trimEnd_subset (cs : List Char) : trimEnd cs ⊆ cs := by
  intro c mem
  exact List.mem_reverse.mp ((List.dropWhile_sublist _).subset (List.mem_reverse.mp mem))

/-- Trimming adds nothing. -/
theorem trim_subset (cs : List Char) : trim cs ⊆ cs :=
  fun _ mem => (List.dropWhile_sublist _).subset (trimEnd_subset _ mem)

/-- A text that begins and ends with no blank is kept as a whole. -/
theorem trim_eq_self {cs : List Char} (first : ∀ c ∈ cs.head?, isBlank c = false)
    (last : ∀ c ∈ cs.getLast?, isBlank c = false) : trim cs = cs := by
  have kept {text : List Char} (solid : ∀ c ∈ text.head?, isBlank c = false) : text.dropWhile isBlank = text := by
    cases text with
    | nil => rfl
    | cons c rest => rw [List.dropWhile_cons_of_neg (by simp [solid c rfl])]
  rw [trim, trimEnd, kept first, kept (by rwa [List.head?_reverse]), List.reverse_reverse]

/-- What trimming the end cuts off is blank. -/
theorem exists_trail (cs : List Char) :
    ∃ trail, cs = trimEnd cs ++ trail ∧ ∀ c ∈ trail, isBlank c = true := by
  refine ⟨(cs.reverse.takeWhile isBlank).reverse, ?_, ?_⟩
  · -- Read backwards, a text is its blanks and then what is kept.
    rw [trimEnd, ← List.reverse_append, List.takeWhile_append_dropWhile, List.reverse_reverse]
  · intro c mem
    exact List.mem_takeWhile_imp (List.mem_reverse.mp mem)

/-- Behind a text, only the end of what follows it is trimmed, unless all of that is blank. -/
theorem trimEnd_append (head cs : List Char) :
    trimEnd (head ++ cs) = if trimEnd cs = [] then trimEnd head else head ++ trimEnd cs := by
  simp only [trimEnd, List.reverse_append, List.dropWhile_append, List.reverse_eq_nil_iff]
  by_cases blank : cs.reverse.dropWhile isBlank = [] <;> simp [blank]

/-- A text whose last character is no blank keeps all of it, whatever follows. -/
theorem trimEnd_append_of_solid {head : List Char} (solid : trimEnd head = head) (cs : List Char) :
    trimEnd (head ++ cs) = head ++ trimEnd cs := by
  rw [trimEnd_append]
  split
  · next blank => rw [blank, solid, List.append_nil]
  · rfl

/-- Blanks in front of a text are trimmed. -/
theorem trim_append_of_blank {lead : List Char} (blank : ∀ c ∈ lead, isBlank c = true)
    (cs : List Char) : trim (lead ++ cs) = trim cs := by
  rw [trim, List.dropWhile_append_of_pos blank, ← trim]

/-- A text that starts with no blank and ends with none is kept in front of another one. -/
theorem trim_append_of_solid {c : Char} {head : List Char} (start : isBlank c = false)
    (solid : trimEnd (c :: head) = c :: head) (cs : List Char) :
    trim (c :: head ++ cs) = c :: head ++ trimEnd cs := by
  rw [trim, List.cons_append, List.dropWhile_cons_of_neg (by simp [start]), ← List.cons_append,
    trimEnd_append_of_solid solid]

/-- Trimming both ends cuts off, beside what trimming the end does, only blanks at the front. -/
theorem exists_lead (cs : List Char) :
    ∃ lead, trimEnd cs = lead ++ trim cs ∧ lead ⊆ cs.takeWhile isBlank ∧ (trim cs = [] → lead = []) := by
  have parted : trimEnd cs = if trim cs = [] then trimEnd (cs.takeWhile isBlank)
      else cs.takeWhile isBlank ++ trim cs := by
    have whole := trimEnd_append (cs.takeWhile isBlank) (cs.dropWhile isBlank)
    rwa [List.takeWhile_append_dropWhile] at whole
  by_cases none : trim cs = []
  · -- A text of blanks alone is cut off from either side.
    refine ⟨[], ?_, by simp, fun _ => rfl⟩
    rw [parted, if_pos none, none, trimEnd, List.append_nil, List.reverse_eq_nil_iff,
      List.dropWhile_eq_nil_iff]
    intro c mem
    exact List.mem_takeWhile_imp (List.mem_reverse.mp mem)
  · exact ⟨cs.takeWhile isBlank, by rw [parted, if_neg none], fun _ mem => mem, fun same => absurd same none⟩

/-- Only blanks are lost to trimming. -/
theorem mem_trim {c : Char} {cs : List Char} (solid : isBlank c = false) : c ∈ trim cs ↔ c ∈ cs := by
  refine ⟨fun mem => trim_subset cs mem, fun mem => ?_⟩
  obtain ⟨lead, kept, blank, -⟩ := exists_lead cs
  obtain ⟨trail, whole, blankTrail⟩ := exists_trail cs
  rw [whole, kept, List.mem_append, List.mem_append] at mem
  -- The character is in none of the two parts that are cut off.
  rcases mem with (front | inside) | behind
  · have := List.mem_takeWhile_imp (blank front)
    simp [solid] at this
  · exact inside
  · have := blankTrail c behind
    simp [solid] at this

end TypedClient.Text
