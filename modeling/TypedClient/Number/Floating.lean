/-! Binary floating-point numbers of any size and precision, as exact dyadic fractions. -/

namespace TypedClient

/-- A floating-point number; a finite one is `± mantissa · 2 ^ exponent`. -/
inductive Floating
  | nan
  | infinite (negative : Bool)
  | finite (negative : Bool) (mantissa : Nat) (exponent : Int)
  deriving DecidableEq, Repr

namespace Floating

/-- Moves the factors of two of the mantissa to the exponent, so that equal numbers look alike. -/
def reduced (negative : Bool) (mantissa : Nat) (exponent : Int) : Floating :=
  if mantissa = 0 then finite negative 0 0
  else if mantissa % 2 = 0 then reduced negative (mantissa / 2) (exponent + 1)
  else finite negative mantissa exponent
termination_by mantissa

/-- An integer, of any size. -/
def ofInt (n : Int) : Floating :=
  reduced (n < 0) n.natAbs 0

/-- Whether the number is zero, of either sign. -/
def isZero : Floating → Bool
  | finite _ mantissa _ => mantissa == 0
  | _ => false

/-- Whether the number has a minus sign. -/
def isNegative : Floating → Bool
  | nan => false
  | infinite negative | finite negative _ _ => negative

/-- The number with the opposite sign. -/
def negate : Floating → Floating
  | nan => nan
  | infinite negative => infinite (!negative)
  | finite negative mantissa exponent => finite (!negative) mantissa exponent

/-- Equality as numbers, which does not see the sign of zero. -/
def sameNumber (a b : Floating) : Bool :=
  (a.isZero && b.isZero) || a == b

end Floating

end TypedClient
