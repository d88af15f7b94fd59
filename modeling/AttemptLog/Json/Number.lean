import AttemptLog.Json.Source
import AttemptLog.Text.Digits
/-!
Numerals of the data format.

A numeral has a whole part without leading zeros, and possibly a fraction and an exponent. A numeral that stands for
a number beyond the doubles of sixty-four bits is no numeral; the test for this is done as doubles do it, on at most
as many digits as fit into sixty-four bits.
-/
namespace AttemptLog.Json

/-- the parts of a numeral, as the digits that were written -/
structure Numeral where
  isNegative : Bool
  whole : List Char
  fraction : Option (List Char)
  exponent : Option (Bool × List Char)

/-- a number rounded to fifty-three binary digits, ties to even -/
def roundBits (n : Nat) : Nat :=
  let excess := Nat.log2 n + 1 - 53
  let unit := Nat.pow 2 excess
  let low := n / unit
  let rest := n % unit
  if 2 * rest < unit then low * unit
  else if 2 * rest = unit ∧ low % 2 = 0 then low * unit
  else (low + 1) * unit

/-- the least number that rounds to no finite double -/
def doubleLimit : Nat := Nat.pow 2 1024 - Nat.pow 2 970

/-- the value of the digits in front that fit into sixty-four bits, and the digits after those -/
def takeSignificand : Nat → List Char → Nat × List Char
  | value, [] => (value, [])
  | value, digit :: rest =>
    let next := value * 10 + Text.value [digit]
    if next < UInt64.size then takeSignificand next rest else (value, digit :: rest)

def Numeral.isOutOfRange (numeral : Numeral) : Bool :=
  let (whole, wholeRest) := takeSignificand 0 numeral.whole
  let fraction := numeral.fraction.getD []
  let (significand, fractionRest) := if wholeRest.isEmpty then takeSignificand whole fraction else (whole, fraction)
  let shift : Int := wholeRest.length - (fraction.length - fractionRest.length : Nat)
  match numeral.exponent with
  | none => tooLarge significand shift
  | some (isNegative, digits) =>
    let exponent := Text.value digits
    if Nat.pow 2 31 ≤ exponent then significand != 0 && !isNegative
    else tooLarge significand (if isNegative then shift - exponent else shift + exponent)
where
  tooLarge (significand : Nat) (exponent : Int) : Bool :=
    0 < exponent && significand != 0 &&
      (308 < exponent || doubleLimit ≤ roundBits significand * roundBits (Nat.pow 10 exponent.toNat))

def readDigits : Reader (List Char) := fun source =>
  .ok ((source.takeWhile isDigit).filterMap id, source.dropWhile isDigit)

/-- the digits in front, of which there must be one -/
def readSomeDigits : Reader (List Char) := do
  let digits ← readDigits
  if digits.isEmpty then throw .malformed else pure digits

def readExponent : Reader (Bool × List Char) := fun source =>
  match source with
  | some '-' :: rest => (do return (true, ← readSomeDigits) : Reader _) rest
  | some '+' :: rest => (do return (false, ← readSomeDigits) : Reader _) rest
  | _ => (do return (false, ← readSomeDigits) : Reader _) source

def readFractionAndExponent (isNegative : Bool) (whole : List Char) : Reader Numeral := do
  let fraction ← fun source =>
    match source with
    | some '.' :: rest => (do return some (← readSomeDigits) : Reader _) rest
    | _ => .ok (none, source)
  let exponent ← fun source =>
    match source with
    | some 'e' :: rest | some 'E' :: rest => (do return some (← readExponent) : Reader _) rest
    | _ => .ok (none, source)
  let numeral : Numeral := ⟨isNegative, whole, fraction, exponent⟩
  if numeral.isOutOfRange then throw .malformed else pure numeral

def readNumeral : Reader Numeral := do
  let isNegative ← fun source =>
    match source with
    | some '-' :: rest => .ok (true, rest)
    | _ => .ok (false, source)
  let whole ← readSomeDigits
  if whole.head? = some '0' ∧ whole.length ≠ 1 then throw .malformed
  readFractionAndExponent isNegative whole

end AttemptLog.Json
