/-!
Numbers in double precision.

A finite number is a significand of at most fifty-three binary digits times a power of two. A decimal numeral stands for
the nearest such number; a value midway between two goes to the one with the even significand, and one that would need a
larger power of two is infinite.
-/
namespace AttemptLog

/-- a number in double precision; a finite one is the significand times this power of two -/
inductive Double where
  | finite (isNegative : Bool) (significand : Nat) (exponent : Int)
  | infinite (isNegative : Bool)
  /-- no number at all -/
  | undefined
  deriving DecidableEq

namespace Double

/-- the binary digits of a significand -/
def precision : Nat := 53

def minExponent : Int := -1074

def maxExponent : Int := 971

/-- a fraction times a power of a base, as a fraction -/
def scaled (base num den : Nat) (exponent : Int) : Nat × Nat :=
  if 0 ≤ exponent then (num * Nat.pow base exponent.toNat, den) else (num, den * Nat.pow base exponent.natAbs)

/-- a quotient rounded to a whole number, a half to the even neighbour -/
def roundQuotient (num den : Nat) : Nat :=
  let whole := num / den
  let rest := num % den
  if 2 * rest < den then whole
  else if 2 * rest = den ∧ whole % 2 = 0 then whole
  else whole + 1

/-- the power of two in which a fraction has a significand of full length, if exponents reach so far down -/
def exponentOf (num den : Nat) : Int :=
  let guess : Int := num.log2 - den.log2 - (precision - 1 : Nat)
  let (n, d) := scaled 2 num den (-guess)
  max minExponent (if n < d * Nat.pow 2 (precision - 1) then guess - 1 else guess)

/-- the number nearest to a fraction that is not zero -/
def ofFraction (isNegative : Bool) (num den : Nat) : Double :=
  let exponent := exponentOf num den
  let (n, d) := scaled 2 num den (-exponent)
  let significand := roundQuotient n d
  let (significand, exponent) :=
    if significand = Nat.pow 2 precision then (Nat.pow 2 (precision - 1), exponent + 1) else (significand, exponent)
  if maxExponent < exponent then .infinite isNegative else .finite isNegative significand exponent

/-- the number nearest to decimal digits times a power of ten; beyond these powers nothing else is possible -/
def ofDecimal (isNegative : Bool) (digits : Nat) (exponent : Int) : Double :=
  let length : Int := (Nat.toDigits 10 digits).length
  if digits = 0 ∨ length + exponent < -330 then .finite isNegative 0 minExponent
  else if 310 < length + exponent then .infinite isNegative
  else
    let (num, den) := scaled 10 digits 1 exponent
    ofFraction isNegative num den

/-- is this zero, with either sign -/
def isZero : Double → Bool
  | .finite _ significand _ => significand == 0
  | .infinite _ | .undefined => false

end Double

end AttemptLog
