import Mathlib.Data.List.TakeWhile
import TypedClient.Proofs.Number.Interval
import TypedClient.Proofs.Value.Display

/-! The texts of doubles, read back as the numbers that they denote: no two doubles have one text. -/

namespace TypedClient

namespace Double

/-- The number that decimal digits denote, with a point among them or without one. -/
def pointed (cs : List Char) : ℚ :=
  let places := (cs.dropWhile (· != '.')).tail
  Nat.ofDigitChars 10 (cs.takeWhile (· != '.') ++ places) 0 / 10 ^ places.length

/-- The power of ten that stands behind its letter. -/
def power : List Char → ℤ
  | 'e' :: '-' :: digits => -Nat.ofDigitChars 10 digits 0
  | 'e' :: '+' :: digits => Nat.ofDigitChars 10 digits 0
  | _ => 0

/-- The number that a text denotes: digits with a point and a power of ten, of which both may lack. -/
def decimal (cs : List Char) : ℚ :=
  pointed (cs.takeWhile (· != 'e')) * 10 ^ power (cs.dropWhile (· != 'e'))

variable {cs whole places digits : List Char} {c mark : Char}

section Read

/-- What stands before the first place of a mark has no such mark in it. -/
theorem span_of_not_mem (none : mark ∉ whole) (rest : List Char) :
    (whole ++ mark :: rest).takeWhile (· != mark) = whole ∧
      (whole ++ mark :: rest).dropWhile (· != mark) = mark :: rest := by
  have each : ∀ c ∈ whole, (c != mark) = true := fun c mem => bne_iff_ne.mpr fun same => none (same ▸ mem)
  rw [List.takeWhile_append_of_pos each, List.dropWhile_append_of_pos each]
  simp

/-- A text without a mark is all before it. -/
theorem span_of_none (none : mark ∉ whole) :
    whole.takeWhile (· != mark) = whole ∧ whole.dropWhile (· != mark) = [] := by
  have each : ∀ c ∈ whole, (c != mark) = true := fun c mem => bne_iff_ne.mpr fun same => none (same ▸ mem)
  exact ⟨List.takeWhile_eq_self_iff.mpr each, List.dropWhile_eq_nil_iff.mpr each⟩

/-- Digits with a point among them are read as tenths of as many places as follow it. -/
theorem pointed_append (none : '.' ∉ whole) (places : List Char) :
    pointed (whole ++ '.' :: places) = Nat.ofDigitChars 10 (whole ++ places) 0 / 10 ^ places.length := by
  obtain ⟨front, back⟩ := span_of_not_mem none places
  simp only [pointed, front, back, List.tail_cons]

/-- Digits without a point are read as a natural number. -/
theorem pointed_of_none (none : '.' ∉ whole) : pointed whole = Nat.ofDigitChars 10 whole 0 := by
  obtain ⟨front, back⟩ := span_of_none none
  simp [pointed, front, back]

/-- A text without a power of ten is read as its digits say. -/
theorem decimal_of_none (none : 'e' ∉ cs) : decimal cs = pointed cs := by
  obtain ⟨front, back⟩ := span_of_none none
  simp [decimal, front, back, power]

/-- A text with a power of ten is read as its digits say, times the power. -/
theorem decimal_append (none : 'e' ∉ cs) (rest : List Char) :
    decimal (cs ++ 'e' :: rest) = pointed cs * 10 ^ power ('e' :: rest) := by
  obtain ⟨front, back⟩ := span_of_not_mem none rest
  simp only [decimal, front, back]

end Read

section Layout

/-- The digits of a number are digits, and denote it. -/
theorem digitText_facts (n : Nat) : (∀ c ∈ digitText n, c.isDigit = true) ∧ digitText n ≠ [] ∧
    Nat.ofDigitChars 10 (digitText n) 0 = n := by
  refine ⟨forall_mem_digitText (fun _ digit => digit) n, ?_⟩
  rw [show digitText n = Nat.toDigits 10 n from Nat.toList_repr]
  exact ⟨Nat.toDigits_ne_nil, Nat.ofDigitChars_ten_toDigits⟩

/-- A mark that is no digit is not among digits. -/
theorem not_mem_of_digits (each : ∀ c ∈ digits, c.isDigit = true) (other : mark.isDigit = false) :
    mark ∉ digits :=
  fun mem => by simp [each mark mem] at other

/-- Digits with a power of ten behind them are read back. -/
theorem decimal_power (each : ∀ c ∈ digits, c.isDigit = true) (some : digits ≠ []) (leading : Int) :
    decimal (digits.take 1 ++ (if digits.tail.isEmpty then [] else '.' :: digits.tail)
        ++ ['e', if leading < 0 then '-' else '+']
        ++ if (digitText leading.natAbs).length < 2 then '0' :: digitText leading.natAbs
          else digitText leading.natAbs)
      = Nat.ofDigitChars 10 digits 0 * 10 ^ (leading + 1 - digits.length) := by
  obtain ⟨first, tail, rfl⟩ := List.exists_cons_of_ne_nil some
  have noPoint : '.' ∉ [first] := not_mem_of_digits (fun c mem => each c (by simp_all)) rfl
  have noLetter : 'e' ∉ first :: tail := not_mem_of_digits each rfl
  -- The point is left out if nothing would follow it.
  have read : pointed (first :: if tail.isEmpty then [] else '.' :: tail)
      = Nat.ofDigitChars 10 (first :: tail) 0 / 10 ^ tail.length := by
    cases tail with
    | nil => simpa using pointed_of_none noPoint
    | cons => exact pointed_append noPoint _
  have noneE : 'e' ∉ first :: if tail.isEmpty then [] else '.' :: tail := by
    cases tail <;> simp_all
  have padded : Nat.ofDigitChars 10 (if (digitText leading.natAbs).length < 2 then '0' :: digitText leading.natAbs
      else digitText leading.natAbs) 0 = leading.natAbs := by
    split
    · rw [Nat.ofDigitChars_cons]
      exact (digitText_facts _).2.2
    · exact (digitText_facts _).2.2
  generalize (if (digitText leading.natAbs).length < 2 then '0' :: digitText leading.natAbs
      else digitText leading.natAbs) = magnitude at *
  have exponent : power ('e' :: (if leading < 0 then '-' else '+') :: magnitude) = leading := by
    split <;> simp only [power, padded] <;> omega
  calc _ = decimal ((first :: if tail.isEmpty then [] else '.' :: tail)
          ++ 'e' :: (if leading < 0 then '-' else '+') :: magnitude) := by simp
    _ = Nat.ofDigitChars 10 (first :: tail) 0 / 10 ^ tail.length * 10 ^ leading := by
      rw [decimal_append noneE, read, exponent]
    _ = _ := by
      rw [show leading + 1 - (first :: tail).length = leading - tail.length by simp,
        zpow_sub₀ (by norm_num), zpow_natCast]
      ring

/-- Digits are laid out so that they are read back, the first one at the given power of ten. -/
theorem decimal_layout (each : ∀ c ∈ digits, c.isDigit = true) (some : digits ≠ []) (leading : Int) :
    decimal (layout digits leading)
      = Nat.ofDigitChars 10 digits 0 * 10 ^ (leading + 1 - digits.length) := by
  have zeros (n : Nat) : ∀ c ∈ List.replicate n '0', c.isDigit = true := fun c mem => by
    rw [List.eq_of_mem_replicate mem]
    rfl
  have positional (whole places : List Char) (front : ∀ c ∈ whole, c.isDigit = true)
      (back : ∀ c ∈ places, c.isDigit = true) : decimal (whole ++ '.' :: places)
        = Nat.ofDigitChars 10 (whole ++ places) 0 / 10 ^ places.length := by
    rw [decimal_of_none, pointed_append (not_mem_of_digits front rfl)]
    simp [not_mem_of_digits front (show ('e' : Char).isDigit = false from rfl),
      not_mem_of_digits back (show ('e' : Char).isDigit = false from rfl)]
  rw [layout]
  split
  · exact decimal_power each some leading
  split
  · next below =>
    -- Zeros in front of the digits move them to their places.
    obtain ⟨gap, isGap⟩ : ∃ gap : Nat, -leading - 1 = gap := Int.eq_ofNat_of_zero_le (by omega)
    have read := positional ['0'] (List.replicate gap '0' ++ digits) (List.forall_mem_singleton.mpr rfl)
      fun c mem => (List.mem_append.mp mem).elim (zeros _ c) (each c)
    rw [isGap, Int.toNat_natCast]
    refine read.trans ?_
    rw [show leading + 1 - digits.length = -(gap + digits.length : Nat) by omega, zpow_neg, zpow_natCast,
      List.length_append, List.length_replicate, div_eq_mul_inv, List.cons_append, Nat.ofDigitChars_cons,
      List.nil_append, Nat.ofDigitChars_append, Nat.ofDigitChars_replicate_zero]
    simp
  split
  · next beyond =>
    -- Zeros behind the digits reach up to the point, and one stands behind it.
    obtain ⟨gap, isGap⟩ : ∃ gap : Nat, leading + 1 - digits.length = gap := Int.eq_ofNat_of_zero_le (by omega)
    have read := positional (digits ++ List.replicate gap '0') ['0']
      (fun c mem => (List.mem_append.mp mem).elim (each c) (zeros _ c)) (List.forall_mem_singleton.mpr rfl)
    rw [isGap, Int.toNat_natCast]
    refine read.trans ?_
    rw [zpow_natCast, Nat.ofDigitChars_append, Nat.ofDigitChars_append, Nat.ofDigitChars_replicate_zero]
    simp [Nat.ofDigitChars_cons, mul_comm]
  · next among =>
    -- The point stands among the digits.
    obtain ⟨front, isFront⟩ : ∃ front : Nat, leading + 1 = front := Int.eq_ofNat_of_zero_le (by omega)
    have read := positional (digits.take front) (digits.drop front)
      (fun c mem => each c (List.mem_of_mem_take mem)) fun c mem => each c (List.mem_of_mem_drop mem)
    rw [isFront, Int.toNat_natCast]
    refine read.trans ?_
    rw [List.take_append_drop, List.length_drop, show (front : Int) - digits.length
      = -(digits.length - front : Nat) by omega, zpow_neg, zpow_natCast, div_eq_mul_inv]

end Layout

section Heads

/-- Digits are laid out with a digit in front. -/
theorem head_layout (each : ∀ c ∈ digits, c.isDigit = true) (some : digits ≠ []) (leading : Int) :
    ∃ first rest, layout digits leading = first :: rest ∧ first.isDigit = true := by
  obtain ⟨first, tail, rfl⟩ := List.exists_cons_of_ne_nil some
  have digit : first.isDigit = true := each first List.mem_cons_self
  rw [layout]
  split
  · exact ⟨first, _, rfl, digit⟩
  split
  · exact ⟨'0', _, rfl, rfl⟩
  split
  · exact ⟨first, _, rfl, digit⟩
  · next positive _ =>
    -- The point stands behind one digit at least.
    obtain ⟨front, isFront⟩ : ∃ front : Nat, leading = front := Int.eq_ofNat_of_zero_le (by omega)
    refine ⟨first, tail.take front ++ '.' :: tail.drop front, ?_, digit⟩
    rw [isFront, show ((front : Int) + 1).toNat = front + 1 by omega]
    simp

end Heads

end Double

namespace Floating

open Double

/-- The text of a number without its sign. -/
def body : Floating → List Char
  | nan => ['n', 'a', 'n']
  | infinite _ => ['i', 'n', 'f']
  | finite _ mantissa exponent =>
    if mantissa = 0 then ['0', '.', '0']
    else
      let written := digitText (shortestDigits mantissa exponent).1
      layout written (written.length - 1 + (shortestDigits mantissa exponent).2)

variable {mantissa other : Nat} {exponent last : Int} {negative : Bool}

/-- Without its sign, a finite number begins with a digit. -/
theorem head_body_finite (negative : Bool) (mantissa : Nat) (exponent : Int) :
    ∃ first rest, (finite negative mantissa exponent).body = first :: rest ∧ first.isDigit = true := by
  rw [body]
  split
  · exact ⟨'0', _, rfl, rfl⟩
  · have facts := digitText_facts (shortestDigits mantissa exponent).1
    exact head_layout facts.1 facts.2.1 _

/-- Without its sign, a number begins with no sign. -/
theorem head_body (x : Floating) : ∃ first rest, x.body = first :: rest ∧ first ≠ '-' := by
  cases x with
  | nan => exact ⟨'n', _, rfl, by decide⟩
  | infinite negative => exact ⟨'i', _, rfl, by decide⟩
  | finite negative mantissa exponent =>
    obtain ⟨first, rest, same, digit⟩ := head_body_finite negative mantissa exponent
    refine ⟨first, rest, same, ?_⟩
    rintro rfl
    cases digit

/-- The text of a finite number is read back as a number of its interval, or as zero. -/
theorem decimal_body (isDouble : (finite negative mantissa exponent).IsDouble) :
    mantissa = 0 ∧ exponent = 0 ∧ decimal (finite negative mantissa exponent).body = 0 ∨
      IsReduced mantissa exponent ∧ decimal (finite negative mantissa exponent).body ≠ 0 ∧
        ∃ x : Double.Scaled, x.rational = decimal (finite negative mantissa exponent).body ∧
          (interval mantissa exponent).holds x = true := by
  rcases isDouble with ⟨rfl, rfl⟩ | reduced
  · refine .inl ⟨rfl, rfl, ?_⟩
    have zero : decimal ['0', '.', '0'] = 0 := by
      rw [decimal_of_none (by decide), show ['0', '.', '0'] = ['0'] ++ '.' :: ['0'] from rfl,
        pointed_append (by decide)]
      simp [Nat.ofDigitChars]
    simpa [body] using zero
  · -- The digits are those of the shortest decimal, which is in the interval.
    obtain ⟨some, holds⟩ := reduced.holds_shortestDigits
    have nonzero : mantissa ≠ 0 := by
      rintro rfl
      cases reduced.odd
    obtain ⟨digits, nonempty, number⟩ := digitText_facts (shortestDigits mantissa exponent).1
    have read : decimal (finite negative mantissa exponent).body
        = (shortestDigits mantissa exponent).1 * 10 ^ (shortestDigits mantissa exponent).2 := by
      simp only [body, if_neg nonzero]
      rw [decimal_layout digits nonempty, number]
      generalize shortestDigits mantissa exponent = shortest
      congr 2
      omega
    refine .inr ⟨reduced, ?_, _, ?_, holds⟩
    · rw [read]
      positivity
    · simp [read, Scaled.rational]

/-- A finite number is not written as one of the two that are not. -/
theorem body_finite_ne (negative : Bool) (mantissa : Nat) (exponent : Int) :
    (finite negative mantissa exponent).body ≠ nan.body ∧
      ∀ other, (finite negative mantissa exponent).body ≠ (infinite other).body := by
  obtain ⟨first, rest, same, digit⟩ := head_body_finite negative mantissa exponent
  rw [same]
  constructor
  · rintro ⟨⟩
    cases digit
  · rintro other ⟨⟩
    cases digit

/-- Finite numbers with one text and one sign are the same. -/
theorem eq_of_body_eq (isDouble : (finite negative mantissa exponent).IsDouble)
    (also : (finite negative other last).IsDouble)
    (same : (finite negative mantissa exponent).body = (finite negative other last).body) :
    mantissa = other ∧ exponent = last := by
  -- Zero is told from all others by what is read back, and these by the interval that it is in.
  rcases decimal_body isDouble with ⟨rfl, rfl, zero⟩ | ⟨reduced, some, first, read, holds⟩ <;>
    rcases decimal_body also with ⟨rfl, rfl, none⟩ | ⟨reducedToo, someToo, second, readToo, holdsToo⟩
  · exact ⟨rfl, rfl⟩
  · exact absurd (same ▸ zero) someToo
  · exact absurd (same ▸ none) some
  · refine reduced.eq_of_holds reducedToo holds ((Interval.holds_congr ?_).trans holdsToo)
    rw [read, readToo, same]

/-- Doubles of one sign that are written alike are the same. -/
theorem eq_of_body {x y : Floating} (isDouble : x.IsDouble) (also : y.IsDouble)
    (sign : x.isNegative = y.isNegative) (same : x.body = y.body) : x = y := by
  -- The words for what is no number are no digits, so they tell their holders from all others.
  cases x with
  | nan =>
    cases y with
    | nan => rfl
    | infinite => simp [body] at same
    | finite => exact absurd same.symm (body_finite_ne _ _ _).1
  | infinite negative =>
    cases y with
    | nan => simp [body] at same
    | infinite => exact congrArg infinite sign
    | finite => exact absurd same.symm ((body_finite_ne _ _ _).2 negative)
  | finite negative mantissa exponent =>
    cases y with
    | nan => exact absurd same (body_finite_ne _ _ _).1
    | infinite other => exact absurd same ((body_finite_ne _ _ _).2 other)
    | finite other =>
      obtain rfl : negative = other := sign
      obtain ⟨rfl, rfl⟩ := eq_of_body_eq isDouble also same
      rfl

end Floating

namespace Double

variable {x y : Double}

/-- A double is written with its sign in front. -/
theorem text_eq (x : Double) :
    x.text = String.ofList (if x.value.isNegative then '-' :: x.value.body else x.value.body) := by
  rw [text]
  cases x.value with
  | nan => rfl
  | infinite negative => cases negative <;> rfl
  | finite => rfl

/-- A text has one sign and one text behind it. -/
theorem text_inj : x.text = y.text ↔
    x.value.isNegative = y.value.isNegative ∧ x.value.body = y.value.body := by
  obtain ⟨c, front, sameX, noneX⟩ := x.value.head_body
  obtain ⟨d, back, sameY, noneY⟩ := y.value.head_body
  rw [text_eq, text_eq, String.ofList_inj, sameX, sameY]
  cases x.value.isNegative <;> cases y.value.isNegative <;> simp [noneX, Ne.symm noneY]

/-- No two doubles are written alike. -/
theorem text_injective : Function.Injective text := by
  intro x y same
  obtain ⟨sign, sameBody⟩ := text_inj.mp same
  have value : x.value = y.value := Floating.eq_of_body x.isDouble y.isDouble sign sameBody
  cases x
  cases y
  cases value
  rfl

end Double

end TypedClient
