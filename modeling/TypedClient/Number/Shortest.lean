import TypedClient.Number.Double

/-! The shortest decimal text that reads back as the same double. -/

namespace TypedClient.Double

/-- A positive rational number scaled by a power of ten and one of two. -/
structure Scaled where
  factor : Nat
  twos : Int
  tens : Int

/-- The integer numerator and denominator of a scaled number. -/
def Scaled.ratio (x : Scaled) : Nat × Nat :=
  (x.factor * Nat.pow 2 x.twos.toNat * Nat.pow 10 x.tens.toNat,
    Nat.pow 2 (-x.twos).toNat * Nat.pow 10 (-x.tens).toNat)

/-- Whether one scaled number is at most another. -/
def Scaled.le (x y : Scaled) : Bool :=
  x.ratio.1 * y.ratio.2 ≤ y.ratio.1 * x.ratio.2

/-- Whether one scaled number is less than another. -/
def Scaled.lt (x y : Scaled) : Bool :=
  x.ratio.1 * y.ratio.2 < y.ratio.1 * x.ratio.2

/-- The power of ten that a positive fraction reaches but does not pass. -/
def decimalExponent (numerator denominator : Nat) : Int :=
  if denominator ≤ numerator then (digitCount (numerator / denominator) : Int) - 1
  else -(digitCount ((denominator - 1) / numerator) : Int)

/-- A finite positive double with its full mantissa and the interval of reals that round to it. -/
structure Interval where
  value : Scaled
  low : Scaled
  high : Scaled
  closed : Bool

/-- The interval of reals that round to `mantissa · 2 ^ exponent`. -/
def interval (mantissa : Nat) (exponent : Int) : Interval :=
  -- Shift up to fifty-three bits, but never below the smallest exponent.
  let shift := min (52 - (mantissa.log2 : Int)) (exponent + 1074)
  let full := mantissa * Nat.pow 2 shift.toNat
  let twos := exponent - shift
  -- Just above a power of two the numbers below lie twice as close as those above.
  let below := if full == Nat.pow 2 52 && -1074 < twos then 1 else 2
  { value := ⟨4 * full, twos - 2, 0⟩
    low := ⟨4 * full - below, twos - 2, 0⟩
    high := ⟨4 * full + 2, twos - 2, 0⟩
    closed := full % 2 == 0 }

/-- Whether a decimal lies in the interval, the ends included when the mantissa is even. -/
def Interval.holds (i : Interval) (x : Scaled) : Bool :=
  if i.closed then i.low.le x && x.le i.high else i.low.lt x && x.lt i.high

/-- The decimal of the interval on the grid of the given power of ten, nearest to the value. -/
def Interval.onGrid? (i : Interval) (tens : Int) : Option Nat :=
  let unit : Scaled := ⟨1, 0, tens⟩
  let numerator := i.value.ratio.1 * unit.ratio.2
  let denominator := i.value.ratio.2 * unit.ratio.1
  -- Only the two neighbours of the value on the grid can be the nearest.
  let below := numerator / denominator
  let nearest := roundedQuotient numerator denominator
  let other := if nearest == below then below + 1 else below
  if 0 < nearest && i.holds ⟨nearest, 0, tens⟩ then some nearest
  else if 0 < other && i.holds ⟨other, 0, tens⟩ then some other
  else none

/-- The first grid with a decimal of the interval, trying ever finer ones. -/
def Interval.firstGrid (i : Interval) : Nat → Int → Nat × Int
  | 0, tens => ((i.onGrid? tens).getD 0, tens)
  | tries + 1, tens =>
    match i.onGrid? tens with
    | some digits => (digits, tens)
    | none => i.firstGrid tries (tens - 1)

/-- Moves the factors of ten of the digits to the exponent. -/
def withoutZeros (digits : Nat) (tens : Int) : Nat × Int :=
  if digits = 0 then (0, 0)
  else if digits % 10 = 0 then withoutZeros (digits / 10) (tens + 1)
  else (digits, tens)
termination_by digits

/-- The fewest digits that read back as `mantissa · 2 ^ exponent`, with their power of ten. -/
def shortestDigits (mantissa : Nat) (exponent : Int) : Nat × Int :=
  let i := interval mantissa exponent
  let (digits, tens) := i.firstGrid 16 (decimalExponent i.value.ratio.1 i.value.ratio.2)
  withoutZeros digits tens

/-- The decimal digits of a number, the most significant first. -/
def digitText (n : Nat) : List Char :=
  (toString n).toList

/-- The digits in positional form between `1e-4` and `1e16`, and in exponent form elsewhere. -/
def layout (digits : List Char) (leading : Int) : List Char :=
  let count : Int := digits.length
  if leading < -4 || 16 ≤ leading then
    let fraction := if digits.tail.isEmpty then [] else '.' :: digits.tail
    let sign := if leading < 0 then '-' else '+'
    let magnitude := digitText leading.natAbs
    -- The exponent has at least two digits.
    let padded := if magnitude.length < 2 then '0' :: magnitude else magnitude
    digits.take 1 ++ fraction ++ ['e', sign] ++ padded
  else if leading < 0 then '0' :: '.' :: List.replicate (-leading - 1).toNat '0' ++ digits
  else if count ≤ leading + 1 then
    digits ++ List.replicate (leading + 1 - count).toNat '0' ++ ['.', '0']
  else digits.take (leading + 1).toNat ++ '.' :: digits.drop (leading + 1).toNat

/-- The text of a double: the fewest digits that read back, with a point or an exponent. -/
def text (x : Double) : String :=
  match x.value with
  | .nan => "nan"
  | .infinite negative => if negative then "-inf" else "inf"
  | .finite negative mantissa exponent =>
    let unsigned :=
      if mantissa = 0 then ['0', '.', '0']
      else
        let (digits, tens) := shortestDigits mantissa exponent
        let written := digitText digits
        layout written (written.length - 1 + tens)
    String.ofList (if negative then '-' :: unsigned else unsigned)

end TypedClient.Double
