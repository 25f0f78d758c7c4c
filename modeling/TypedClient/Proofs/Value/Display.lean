import TypedClient.Value.Display

/-! What the texts of numbers are made of; the text of a value that counts as true is never empty. -/

namespace TypedClient

section Characters

variable {P : Char → Prop} {digits : List Char}

/-- What is true of all digits is true of the characters of a number. -/
theorem Double.forall_mem_digitText (digit : ∀ c : Char, c.isDigit = true → P c) (n : Nat) :
    ∀ c ∈ digitText n, P c := fun c mem => by
  rw [show digitText n = Nat.toDigits 10 n from Nat.toList_repr] at mem
  exact digit c (Nat.isDigit_of_mem_toDigits (by decide) (by decide) mem)

/-- An integer is written in digits with no other mark than that of its sign. -/
theorem forall_mem_toString (digit : ∀ c : Char, c.isDigit = true → P c) (minus : P '-') (n : Int) :
    ∀ c ∈ (toString n).toList, P c := by
  cases n with
  | ofNat n => exact Double.forall_mem_digitText digit n
  | negSucc n =>
    rw [show toString (Int.negSucc n) = "-" ++ toString (n + 1) from rfl, String.toList_append]
    exact List.forall_mem_append.mpr
      ⟨List.forall_mem_singleton.mpr minus, Double.forall_mem_digitText digit (n + 1)⟩

/-- Digits are laid out with nothing but other digits and the marks of a point and of an exponent. -/
theorem Double.forall_mem_layout (each : ∀ c ∈ digits, P c) (digit : ∀ c : Char, c.isDigit = true → P c)
    (marks : ∀ c ∈ ['.', 'e', '+', '-'], P c) (leading : Int) : ∀ c ∈ layout digits leading, P c := by
  have power := forall_mem_digitText digit leading.natAbs
  have zeros (n : Nat) : ∀ c ∈ List.replicate n '0', P c := List.forall_mem_replicate.mpr (.inr (digit _ rfl))
  have front (n : Nat) : ∀ c ∈ digits.take n, P c := fun c mem => each c (List.mem_of_mem_take mem)
  have back (n : Nat) : ∀ c ∈ digits.drop n, P c := fun c mem => each c (List.mem_of_mem_drop mem)
  have tail : ∀ c ∈ digits.tail, P c := fun c mem => each c (List.mem_of_mem_tail mem)
  have zero : P '0' := digit _ rfl
  simp only [List.forall_mem_cons] at marks
  obtain ⟨point, letter, plus, minus, -⟩ := marks
  rw [layout]
  split
  · -- The exponent form has a fraction only if there is more than one digit.
    have fraction : ∀ c ∈ (if digits.tail.isEmpty then [] else '.' :: digits.tail), P c := by
      split
      · simp
      · exact List.forall_mem_cons.mpr ⟨point, tail⟩
    have sign : P (if leading < 0 then '-' else '+') := by
      split <;> assumption
    simp only [List.forall_mem_append, List.forall_mem_cons, List.not_mem_nil, false_implies, implies_true,
      and_true]
    refine ⟨⟨⟨front 1, fraction⟩, letter, sign⟩, ?_⟩
    split
    · exact List.forall_mem_cons.mpr ⟨zero, power⟩
    · exact power
  · -- Otherwise zeros and a point are put before the digits, behind them or among them.
    split
    · simp only [List.cons_append, List.forall_mem_cons, List.forall_mem_append]
      exact ⟨zero, point, zeros _, each⟩
    · split
      · simp only [List.forall_mem_append, List.forall_mem_cons, List.not_mem_nil, false_implies, implies_true,
          and_true]
        exact ⟨⟨each, zeros _⟩, point, zero⟩
      · simp only [List.forall_mem_append, List.forall_mem_cons]
        exact ⟨front _, point, back _⟩

/-- A double is written in digits, the marks of signs, of a point and of an exponent, and the letters of the two
that are no numbers. -/
theorem Double.forall_mem_text (digit : ∀ c : Char, c.isDigit = true → P c)
    (marks : ∀ c ∈ ['.', 'e', '+', '-', 'a', 'f', 'i', 'n'], P c) (x : Double) : ∀ c ∈ x.text.toList, P c := by
  have listed {cs : List Char} (subset : cs ⊆ ['.', 'e', '+', '-', 'a', 'f', 'i', 'n']) : ∀ c ∈ cs, P c :=
    fun c mem => marks c (subset mem)
  rw [text]
  cases x.value with
  | nan => exact listed (by decide)
  | infinite negative => cases negative <;> exact listed (by decide)
  | finite negative mantissa exponent =>
    dsimp only
    rw [String.toList_ofList]
    obtain ⟨shortest, tens⟩ := shortestDigits mantissa exponent
    -- Whichever digits are found, they are laid out without other characters.
    have unsigned : ∀ c ∈ (if mantissa = 0 then ['0', '.', '0'] else
        layout (digitText shortest) ((digitText shortest).length - 1 + tens)), P c := by
      split
      · have zero : P '0' := digit _ rfl
        have point : P '.' := marks _ (by decide)
        simp [zero, point]
      · exact forall_mem_layout (forall_mem_digitText digit shortest) digit (listed (by decide)) _
    cases negative with
    | false => exact unsigned
    | true => exact List.forall_mem_cons.mpr ⟨marks _ (by decide), unsigned⟩

end Characters

/-- Whichever layout is taken for digits, it holds a point or the letter of an exponent. -/
theorem Double.mark_mem_layout (digits : List Char) (leading : Int) :
    ∃ mark ∈ ['.', 'e', 'n'], mark ∈ layout digits leading := by
  have point : '.' ∈ ['.', 'e', 'n'] := by decide
  rw [layout]
  split
  · exact ⟨'e', by decide, by simp⟩
  · split
    · exact ⟨'.', point, by simp⟩
    · split <;> exact ⟨'.', point, by simp⟩

/-- A double is never written in digits alone. -/
theorem Double.exists_mark (x : Double) : ∃ mark ∈ ['.', 'e', 'n'], mark ∈ x.text.toList := by
  rw [text]
  cases x.value with
  | nan => exact ⟨'n', by decide, by decide⟩
  | infinite negative => exact ⟨'n', by decide, by cases negative <;> decide⟩
  | finite negative mantissa exponent =>
    dsimp only
    rw [String.toList_ofList]
    obtain ⟨shortest, tens⟩ := shortestDigits mantissa exponent
    -- Without its sign, a finite number has a point or an exponent.
    have unsigned : ∃ mark ∈ ['.', 'e', 'n'], mark ∈ (if mantissa = 0 then ['0', '.', '0'] else
        layout (digitText shortest) ((digitText shortest).length - 1 + tens)) := by
      split
      · exact ⟨'.', by decide, by decide⟩
      · exact mark_mem_layout _ _
    obtain ⟨mark, known, mem⟩ := unsigned
    cases negative with
    | false => exact ⟨mark, known, mem⟩
    | true => exact ⟨mark, known, List.mem_cons_of_mem _ mem⟩

/-- A number is never written as nothing. -/
theorem Double.text_ne_empty (x : Double) : x.text ≠ "" := by
  obtain ⟨mark, -, mem⟩ := x.exists_mark
  intro none
  simp [none] at mem

/-- A moment is written with the marks between the parts of its date. -/
theorem Moment.standardText_ne_empty (mark : String) (m : Moment) : m.standardText mark ≠ "" := by
  have dated : m.dateText ≠ "" := by
    simp [dateText, dateText.joinParts, String.intercalate_cons_cons]
  rw [standardText]
  split
  · exact dated
  · simp [dated]

/-- A scalar that counts as true is not inserted as nothing. -/
theorem Scalar.display_ne_empty {s : Scalar} (truthy : s.truthy = true) : s.display ≠ "" := by
  cases s with
  | text t => simpa [Scalar.truthy, display] using truthy
  | moment m => exact m.standardText_ne_empty " "
  | null => cases truthy
  | bool b => cases b <;> decide
  | int n =>
    simp only [display, inspect, toString, Int.repr_eq_if]
    split <;> simp [Nat.repr_ne_empty]
  | float x => exact x.text_ne_empty
  | bytes content => simp [display, inspect, Text.inspectedBytes]

/-- A text is inserted as it is. -/
@[simp] theorem Value.display_text (s : String) : (Value.text s).display = s :=
  rfl

/-- A value that counts as true is not inserted as nothing. -/
theorem Value.display_ne_empty {v : Value} (truthy : v.truthy = true) : v.display ≠ "" := by
  cases v with
  | scalar s => exact Scalar.display_ne_empty truthy
  -- A collection stands in brackets.
  | list items => simp [display, inspect]
  | map members => simp [display, inspect]
  | set items =>
    cases items with
    | nil => cases truthy
    | cons first rest => simp [display, inspect]
  | pair key value => simp [display, inspect]

end TypedClient
