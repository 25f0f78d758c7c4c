import TypedClient.Proofs.Number.Scaled

/-! The decimals that read back as a double: the search for one finds it, and no other double has it. -/

namespace TypedClient.Double

/-- A mantissa with as many of the fifty-three bits in use as the smallest exponent allows. -/
structure IsFull (full : Nat) (twos : Int) : Prop where
  positive : 0 < full
  small : full < 2 ^ 53
  least : -1074 ≤ twos
  normal : 2 ^ 52 ≤ full ∨ twos = -1074

/-- How far the interval of a double reaches down, in quarters of its last place. -/
def margin (full : Nat) (twos : Int) : Nat :=
  if full = 2 ^ 52 ∧ -1074 < twos then 1 else 2

/-- The interval of a double with a full mantissa. -/
def fullInterval (full : Nat) (twos : Int) : Interval where
  value := ⟨4 * full, twos - 2, 0⟩
  low := ⟨4 * full - margin full twos, twos - 2, 0⟩
  high := ⟨4 * full + 2, twos - 2, 0⟩
  closed := full % 2 == 0

variable {mantissa full wide : Nat} {exponent twos tens : Int} {x y : Scaled} {i : Interval}

section Unique

/-- A reduced mantissa is shifted up until it is full. -/
theorem IsReduced.exists_full (reduced : IsReduced mantissa exponent) :
    ∃ spare : Nat, IsFull (mantissa * 2 ^ spare) (exponent - spare) ∧
      interval mantissa exponent = fullInterval (mantissa * 2 ^ spare) (exponent - spare) := by
  have positive : 0 < mantissa := by
    have := reduced.odd
    omega
  have least := reduced.least
  obtain ⟨bits, log⟩ := Nat.exists_eq_add_of_le (log2_le positive reduced.small)
  obtain ⟨spare, shift⟩ : ∃ spare : Nat, min (52 - (mantissa.log2 : Int)) (exponent + 1074) = spare :=
    Int.eq_ofNat_of_zero_le (by omega)
  have full := full_bounds positive log
  refine ⟨spare, ⟨by positivity, ?_, by omega, ?_⟩, ?_⟩
  · calc mantissa * 2 ^ spare ≤ mantissa * 2 ^ bits := by gcongr <;> omega
      _ < 2 ^ 53 := full.2
  · -- Either all bits are in use, or the smallest exponent has been reached.
    by_cases all : spare = bits
    · exact .inl (all ▸ full.1)
    · exact .inr (by omega)
  · simp [interval, fullInterval, margin, shift]

/-- What an interval holds is not at its ends unless these belong to it. -/
theorem Interval.strict_of_holds (ends : i.closed = false) (holds : i.holds x = true) :
    i.low.rational < x.rational ∧ x.rational < i.high.rational := by
  rw [Interval.holds, if_neg (by simp [ends])] at holds
  obtain ⟨above, below⟩ := Bool.and_eq_true_iff.mp holds
  exact ⟨(Scaled.lt_iff _ _).mp above, (Scaled.lt_iff _ _).mp below⟩

/-- Intervals that hold a number in common overlap, and share more than an end if one of them is open. -/
theorem overlap_of_holds {apart : Nat} (first : (fullInterval full twos).holds x = true)
    (second : (fullInterval wide (twos + apart)).holds x = true) :
    (4 * wide - margin wide (twos + apart)) * 2 ^ apart ≤ 4 * full + 2 ∧
      (full % 2 = 1 ∨ wide % 2 = 1 → (4 * wide - margin wide (twos + apart)) * 2 ^ apart < 4 * full + 2) := by
  have unit : (0 : ℚ) < 2 ^ (twos - 2) := by positivity
  -- The end of the wider interval is one of the finer grid.
  have end_ : (fullInterval wide (twos + apart)).low.rational
      = ((4 * wide - margin wide (twos + apart)) * 2 ^ apart : Nat) * 2 ^ (twos - 2) := by
    simp only [Scaled.rational, fullInterval]
    rw [show twos + apart - 2 = apart + (twos - 2) by omega, zpow_add₀ two_ne_zero, zpow_natCast]
    push_cast
    ring
  have other : (fullInterval full twos).high.rational = (4 * full + 2 : Nat) * 2 ^ (twos - 2) := by
    simp [Scaled.rational, fullInterval]
  constructor
  · have reached := (Interval.bounds_of_holds second).1.trans (Interval.bounds_of_holds first).2
    rw [end_, other] at reached
    exact Nat.cast_le.mp (le_of_mul_le_mul_right reached unit)
  · intro odd
    have reached : (fullInterval wide (twos + apart)).low.rational < (fullInterval full twos).high.rational := by
      rcases odd with odd | odd
      · exact (Interval.bounds_of_holds second).1.trans_lt
          (Interval.strict_of_holds (by simp [fullInterval, odd]) first).2
      · exact (Interval.strict_of_holds (by simp [fullInterval, odd]) second).1.trans_le
          (Interval.bounds_of_holds first).2
    rw [end_, other] at reached
    exact Nat.cast_lt.mp (lt_of_mul_lt_mul_right reached unit.le)

/-- Of doubles with one last place, no two hold a number in common. -/
theorem full_le_of_holds (positive : 0 < wide) (first : (fullInterval full twos).holds x = true)
    (second : (fullInterval wide twos).holds x = true) : wide ≤ full := by
  have alike : (fullInterval wide (twos + ((0 : Nat) : Int))).holds x = true := by simpa using second
  have overlap := overlap_of_holds first alike
  have small : margin wide twos ≤ 2 := by
    rw [margin]
    split <;> omega
  simp only [Nat.cast_zero, add_zero, pow_zero, mul_one] at overlap
  -- Neighbours have an end in common, but one of the two is odd and does not hold it.
  by_contra above
  obtain ⟨le, lt⟩ := overlap
  have neighbours : wide = full + 1 := by omega
  have := lt (by omega)
  omega

/-- Doubles of different last places hold no number in common. -/
theorem twos_eq_of_holds {apart : Nat} (narrow : IsFull full twos) (broad : IsFull wide (twos + apart))
    (first : (fullInterval full twos).holds x = true)
    (second : (fullInterval wide (twos + apart)).holds x = true) : apart = 0 := by
  by_contra some
  obtain ⟨le, lt⟩ := overlap_of_holds first second
  have least := narrow.least
  have small := narrow.small
  have normal : 2 ^ 52 ≤ wide := by
    rcases broad.normal with normal | least
    · exact normal
    · omega
  have double : (4 * wide - margin wide (twos + apart)) * 2
      ≤ (4 * wide - margin wide (twos + apart)) * 2 ^ apart := by
    gcongr
    exact Nat.le_self_pow some 2
  -- The interval of a power of two reaches down less far, and just to the last of the finer doubles, an odd one.
  by_cases power : wide = 2 ^ 52
  · have one : margin wide (twos + apart) = 1 := if_pos ⟨power, by omega⟩
    rw [one] at double le lt
    have := lt (by omega)
    omega
  · have two : margin wide (twos + apart) = 2 := if_neg fun both => power both.1
    rw [two] at double le
    omega

/-- Odd numbers with factors of two are the same only if the odd numbers are. -/
theorem eq_of_mul_pow {m n s t : Nat} (oddM : m % 2 = 1) (oddN : n % 2 = 1) (same : m * 2 ^ s = n * 2 ^ t) :
    m = n ∧ s = t := by
  -- Both powers are lowered together; if one is used up first, its side is odd and the other one even.
  induction s generalizing t with
  | zero =>
    cases t with
    | zero => exact ⟨by simpa using same, rfl⟩
    | succ t =>
      rw [pow_zero, mul_one, pow_succ, ← mul_assoc] at same
      omega
  | succ s ih =>
    cases t with
    | zero =>
      rw [pow_zero, mul_one, pow_succ, ← mul_assoc] at same
      omega
    | succ t =>
      rw [pow_succ, pow_succ, ← mul_assoc, ← mul_assoc] at same
      obtain ⟨sameM, sameS⟩ := ih (t := t) (by omega)
      exact ⟨sameM, by omega⟩

/-- A number is in the interval of one full mantissa at most. -/
theorem IsFull.eq_of_holds {last : Int} (isFull : IsFull full twos) (other : IsFull wide last)
    (first : (fullInterval full twos).holds x = true) (second : (fullInterval wide last).holds x = true) :
    full = wide ∧ twos = last := by
  have same : twos = last := by
    rcases Int.le_total twos last with le | le
    · obtain ⟨apart, rfl⟩ := Int.le.dest le
      have := twos_eq_of_holds isFull other first second
      omega
    · obtain ⟨apart, rfl⟩ := Int.le.dest le
      have := twos_eq_of_holds other isFull second first
      omega
  subst same
  exact ⟨Nat.le_antisymm (full_le_of_holds isFull.positive second first)
    (full_le_of_holds other.positive first second), rfl⟩

/-- A number is in the interval of one reduced mantissa at most. -/
theorem IsReduced.eq_of_holds {other : Nat} {power : Int} (reduced : IsReduced mantissa exponent)
    (also : IsReduced other power) (first : (interval mantissa exponent).holds x = true)
    (second : (interval other power).holds x = true) : mantissa = other ∧ exponent = power := by
  obtain ⟨spare, full, same⟩ := reduced.exists_full
  obtain ⟨left, wide, equal⟩ := also.exists_full
  obtain ⟨sameFull, sameTwos⟩ := full.eq_of_holds wide (same ▸ first) (equal ▸ second)
  obtain ⟨sameMantissa, sameSpare⟩ := eq_of_mul_pow reduced.odd also.odd sameFull
  exact ⟨sameMantissa, by omega⟩

end Unique

section Found

/-- A rounded quotient is within a half of the quotient. -/
theorem roundedQuotient_bounds (numerator : Nat) {denominator : Nat} (positive : 0 < denominator) :
    2 * numerator ≤ (2 * roundedQuotient numerator denominator + 1) * denominator ∧
      2 * roundedQuotient numerator denominator * denominator ≤ 2 * numerator + denominator := by
  have parts := Nat.div_add_mod numerator denominator
  have less := Nat.mod_lt numerator positive
  rw [roundedQuotient]
  generalize numerator / denominator = quotient, numerator % denominator = rest at *
  -- It is rounded up if the rest is at least half of the denominator, and down if it is at most that.
  split
  · next up =>
    have half : denominator ≤ 2 * rest := by
      simp only [Bool.or_eq_true, decide_eq_true_eq, Bool.and_eq_true, beq_iff_eq] at up
      omega
    constructor <;> nlinarith
  · next down =>
    have half : 2 * rest ≤ denominator := by
      simp only [Bool.or_eq_true, decide_eq_true_eq] at down
      omega
    constructor <;> nlinarith

/-- A number has as many digits as its size says. -/
theorem pow_digitCount (n : Nat) : n < 10 ^ digitCount n ∧ (n ≠ 0 → 10 ^ (digitCount n - 1) ≤ n) := by
  induction n using Nat.strongRecOn with
  | ind n ih =>
    rw [digitCount]
    split
    · omega
    · obtain ⟨above, below⟩ := ih (n / 10) (by omega)
      rw [pow_succ, Nat.add_sub_cancel]
      refine ⟨by omega, fun _ => ?_⟩
      -- A single digit has none before it to be counted.
      by_cases last : n / 10 = 0
      · rw [last, digitCount, if_pos rfl, pow_zero]
        omega
      · have count : digitCount (n / 10) = digitCount (n / 10) - 1 + 1 := by
          rw [digitCount, if_neg last]
          rfl
        have := below last
        rw [count, pow_succ]
        omega

/-- The power of ten of the first digit is not above a fraction. -/
theorem zpow_decimalExponent_le {numerator denominator : Nat} (some : 0 < numerator) (positive : 0 < denominator) :
    (10 : ℚ) ^ decimalExponent numerator denominator ≤ numerator / denominator := by
  have divisor : (0 : ℚ) < denominator := Nat.cast_pos.mpr positive
  rw [le_div_iff₀ divisor, decimalExponent]
  split
  · next whole =>
    -- The quotient has a first digit.
    have nonzero : numerator / denominator ≠ 0 := (Nat.div_pos whole positive).ne'
    have count : 1 ≤ digitCount (numerator / denominator) := by
      rw [digitCount, if_neg nonzero]
      omega
    rw [← Nat.cast_pred count, zpow_natCast]
    calc (10 : ℚ) ^ (digitCount (numerator / denominator) - 1) * denominator
        ≤ (numerator / denominator : Nat) * denominator := by
          gcongr
          exact_mod_cast (pow_digitCount _).2 nonzero
      _ ≤ numerator := by exact_mod_cast Nat.div_mul_le_self numerator denominator
  · -- Below one, the inverse has more digits than the places it takes.
    have above := (pow_digitCount ((denominator - 1) / numerator)).1
    rw [Nat.div_lt_iff_lt_mul some] at above
    rw [zpow_neg, zpow_natCast, inv_mul_le_iff₀ (by positivity)]
    exact_mod_cast (show denominator ≤ _ by omega)

/-- The multiple of a power of ten that is nearest to the value of an interval. -/
def Interval.nearest (i : Interval) (tens : Int) : Nat :=
  roundedQuotient (i.value.ratio.1 * (Scaled.ratio ⟨1, 0, tens⟩).2)
    (i.value.ratio.2 * (Scaled.ratio ⟨1, 0, tens⟩).1)

/-- The nearest decimal on a grid is at most half a step away. -/
theorem Interval.nearest_bounds (i : Interval) (tens : Int) :
    2 * i.value.rational ≤ (2 * i.nearest tens + 1) * 10 ^ tens ∧
      2 * (i.nearest tens * 10 ^ tens) ≤ 2 * i.value.rational + 10 ^ tens := by
  obtain ⟨unit, isUnit⟩ : ∃ unit : Scaled, unit = ⟨1, 0, tens⟩ := ⟨_, rfl⟩
  -- The step is a fraction as well, so the multiple of it is a rounded quotient of two integers.
  have step : (10 : ℚ) ^ tens = unit.ratio.1 / unit.ratio.2 := by
    rw [← Scaled.rational_eq, isUnit]
    simp [Scaled.rational]
  have positive : (0 : ℚ) < i.value.ratio.2 := by exact_mod_cast i.value.denominator_pos
  have unitPos : (0 : ℚ) < unit.ratio.2 := by exact_mod_cast unit.denominator_pos
  have factorPos : 0 < unit.ratio.1 := by
    simp only [isUnit, Scaled.ratio, Nat.pow_eq]
    positivity
  obtain ⟨below, above⟩ := roundedQuotient_bounds (i.value.ratio.1 * unit.ratio.2)
    (Nat.mul_pos i.value.denominator_pos factorPos)
  rw [Interval.nearest, ← isUnit, step, Scaled.rational_eq]
  generalize roundedQuotient _ _ = nearest at *
  have below : (2 * (i.value.ratio.1 * unit.ratio.2) : ℚ)
      ≤ (2 * nearest + 1) * (i.value.ratio.2 * unit.ratio.1) := by exact_mod_cast below
  have above : (2 * nearest * (i.value.ratio.2 * unit.ratio.1) : ℚ)
      ≤ 2 * (i.value.ratio.1 * unit.ratio.2) + i.value.ratio.2 * unit.ratio.1 := by exact_mod_cast above
  constructor
  · rw [← mul_div_assoc, ← mul_div_assoc, div_le_div_iff₀ positive unitPos]
    linarith
  · rw [← mul_div_assoc, ← mul_div_assoc, ← mul_div_assoc, div_add_div _ _ positive.ne' unitPos.ne',
      div_le_div_iff₀ unitPos (mul_pos positive unitPos)]
    nlinarith

/-- The nearest decimal on a grid is found if it is one of the interval. -/
theorem Interval.onGrid?_of_nearest (some : 0 < i.nearest tens)
    (holds : i.holds ⟨i.nearest tens, 0, tens⟩ = true) : i.onGrid? tens = .some (i.nearest tens) := by
  rw [Interval.nearest] at *
  simp only [onGrid?, some, holds, decide_true, Bool.and_self, if_true]

/-- What is found on a grid is not zero. -/
theorem Interval.pos_of_onGrid? {digits : Nat} (found : i.onGrid? tens = some digits) : 0 < digits := by
  unfold onGrid? at found
  extract_lets unit numerator denominator below nearest other at found
  split at found
  · next holds =>
    rw [← Option.some.inj found]
    exact of_decide_eq_true (Bool.and_eq_true_iff.mp holds).1
  · split at found
    · next holds =>
      rw [← Option.some.inj found]
      exact of_decide_eq_true (Bool.and_eq_true_iff.mp holds).1
    · cases found

/-- Seventeen digits are enough for the nearest decimal to be one of the interval. -/
theorem IsFull.exists_onGrid (isFull : IsFull full twos)
    (reached : 10 ^ (tens + 16) ≤ (fullInterval full twos).value.rational) :
    ∃ digits, (fullInterval full twos).onGrid? tens = some digits := by
  obtain ⟨lower, higher⟩ := (fullInterval full twos).nearest_bounds tens
  obtain ⟨n, isNearest⟩ : ∃ n, n = (fullInterval full twos).nearest tens := ⟨_, rfl⟩
  obtain ⟨unit, isUnit⟩ : ∃ unit : ℚ, unit = 2 ^ (twos - 2) := ⟨_, rfl⟩
  obtain ⟨step, isStep⟩ : ∃ step : ℚ, step = 10 ^ tens := ⟨_, rfl⟩
  have unitPos : 0 < unit := isUnit ▸ by positivity
  have stepPos : 0 < step := isStep ▸ by positivity
  have value : (fullInterval full twos).value.rational = 4 * full * unit := by
    simp [Scaled.rational, fullInterval, isUnit]
  rw [value, ← isNearest, ← isStep] at lower higher
  rw [value, zpow_add₀ (by norm_num), ← isStep] at reached
  -- A step of the grid is shorter than the interval, which is shorter below a power of two.
  have short : step < 2 * margin full twos * unit := by
    have bound : full * unit ≤ 2 ^ 53 * unit := by
      gcongr
      exact_mod_cast isFull.small.le
    rw [margin]
    split
    · next power =>
      have power : (full : ℚ) = 2 ^ 52 := by exact_mod_cast power.1
      rw [power] at reached
      norm_num at reached ⊢
      linarith
    · norm_num at reached bound ⊢
      linarith
  have atMost : margin full twos ≤ 2 := by
    rw [margin]
    split <;> omega
  have cast : ((4 * full - margin full twos : Nat) : ℚ) = 4 * full - margin full twos := by
    have := isFull.positive
    rw [Nat.cast_sub (by omega)]
    push_cast
    rfl
  have atMost : (margin full twos : ℚ) ≤ 2 := by exact_mod_cast atMost
  have some : 0 < n := by
    by_contra zero
    obtain rfl : n = 0 := by omega
    norm_num at lower reached
    linarith
  have above : (fullInterval full twos).low.rational < Scaled.rational ⟨n, 0, tens⟩ := by
    simp only [Scaled.rational, fullInterval, cast, zpow_zero, mul_one, ← isUnit, ← isStep]
    linarith
  have below : Scaled.rational ⟨n, 0, tens⟩ < (fullInterval full twos).high.rational := by
    simp only [Scaled.rational, fullInterval, zpow_zero, mul_one, ← isUnit, ← isStep]
    push_cast
    nlinarith
  subst isNearest
  exact ⟨_, Interval.onGrid?_of_nearest some (Interval.holds_of_between above below)⟩

/-- The search ends with a decimal of the interval if there is one on the finest grid that it tries. -/
theorem Interval.firstGrid_holds {tries : Nat} (found : ∃ digits, i.onGrid? (tens - tries) = some digits) :
    0 < (i.firstGrid tries tens).1 ∧
      i.holds ⟨(i.firstGrid tries tens).1, 0, (i.firstGrid tries tens).2⟩ = true := by
  induction tries generalizing tens with
  | zero =>
    obtain ⟨digits, found⟩ := found
    rw [Nat.cast_zero, sub_zero] at found
    simp only [firstGrid, found, Option.getD_some]
    exact ⟨pos_of_onGrid? found, holds_of_onGrid? found⟩
  | succ tries ih =>
    rw [firstGrid]
    cases here : i.onGrid? tens with
    | some digits => exact ⟨pos_of_onGrid? here, holds_of_onGrid? here⟩
    | none =>
      -- The next grid is finer, and there is one try less for it.
      refine ih ?_
      rwa [show tens - 1 - tries = tens - (tries + 1 : Nat) by omega]

/-- Moving factors of ten to the exponent keeps a decimal, which is still not zero. -/
theorem withoutZeros_rational {digits : Nat} (some : digits ≠ 0) (tens : Int) :
    (withoutZeros digits tens).1 ≠ 0 ∧
      ((withoutZeros digits tens).1 * 10 ^ (withoutZeros digits tens).2 : ℚ) = digits * 10 ^ tens := by
  fun_induction withoutZeros digits tens with
  | case1 => exact absurd rfl some
  | case2 digits tens _ zero ih =>
    obtain ⟨nonzero, equal⟩ := ih (by omega)
    refine ⟨nonzero, equal.trans ?_⟩
    have whole : (digits : ℚ) = (digits / 10 : Nat) * 10 := by
      exact_mod_cast (Nat.div_mul_cancel (Nat.dvd_of_mod_eq_zero zero)).symm
    rw [zpow_add_one₀ (by norm_num), whole]
    ring
  | case3 digits tens => exact ⟨some, rfl⟩

/-- What an interval holds depends on the rational number alone. -/
theorem Interval.holds_congr (same : x.rational = y.rational) : i.holds x = i.holds y := by
  rw [Bool.eq_iff_iff, Interval.holds, Interval.holds]
  split <;> simp only [Bool.and_eq_true, Scaled.le_iff, Scaled.lt_iff, same]

/-- The shortest digits of a double are digits of its interval, and not zero. -/
theorem IsReduced.holds_shortestDigits (reduced : IsReduced mantissa exponent) :
    (shortestDigits mantissa exponent).1 ≠ 0 ∧ (interval mantissa exponent).holds
      ⟨(shortestDigits mantissa exponent).1, 0, (shortestDigits mantissa exponent).2⟩ = true := by
  -- With all its bits the double has the same interval, for which the finest grid is fine enough.
  obtain ⟨spare, full, same⟩ := reduced.exists_full
  rw [shortestDigits, same]
  generalize mantissa * 2 ^ spare = bits, exponent - spare = twos at *
  obtain ⟨i, isInterval⟩ : ∃ i, i = fullInterval bits twos := ⟨_, rfl⟩
  have positive : 0 < i.value.ratio.1 := by
    have := full.positive
    simp only [isInterval, fullInterval, Scaled.ratio, Nat.pow_eq]
    positivity
  have reached := zpow_decimalExponent_le positive i.value.denominator_pos
  rw [← Scaled.rational_eq] at reached
  rw [← isInterval]
  generalize decimalExponent i.value.ratio.1 i.value.ratio.2 = tens at *
  have finest : ∃ digits, i.onGrid? (tens - ((16 : Nat) : Int)) = some digits :=
    isInterval ▸ full.exists_onGrid (by simpa [← isInterval] using reached)
  obtain ⟨digitsPos, holds⟩ := Interval.firstGrid_holds finest
  obtain ⟨nonzero, equal⟩ := withoutZeros_rational digitsPos.ne' (i.firstGrid 16 tens).2
  refine ⟨nonzero, (Interval.holds_congr ?_).trans holds⟩
  simpa [Scaled.rational] using equal

end Found

end TypedClient.Double
