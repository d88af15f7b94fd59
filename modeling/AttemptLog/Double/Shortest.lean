import AttemptLog.Double
import AttemptLog.Text.Digits
/-!
The shortest text of a number in double precision.

The text has as few decimal digits as can be read back, and of those the ones nearest to the number; of two texts that
are equally near the greater counts. It has no exponent.
-/
namespace AttemptLog.Double

/-- a number between its neighbours: the number and the ends of what is read back as it, in quarters of the unit of its
last binary digit -/
structure Window where
  low : Nat
  middle : Nat
  high : Nat
  /-- do the ends belong to it -/
  isClosed : Bool

/-- what is read back as a number; below a power of two the numbers lie closer together -/
def window (significand : Nat) (exponent : Int) : Window where
  low := 4 * significand - if significand = Nat.pow 2 (precision - 1) ∧ minExponent < exponent then 1 else 2
  middle := 4 * significand
  high := 4 * significand + 2
  isClosed := significand % 2 == 0

def Window.holds (window : Window) (num den : Nat) : Bool :=
  if window.isClosed then decide (window.low * den ≤ num ∧ num ≤ window.high * den)
  else decide (window.low * den < num ∧ num < window.high * den)

/-- the power of ten of the first digit of a fraction -/
def magnitude (num den : Nat) : Int :=
  let guess : Int := (Text.numeral num).length - (Text.numeral den).length
  let (n, d) := scaled 10 num den (-guess)
  if n < d then guess - 1 else guess

/-- the digits nearest to a number among those that count units of this power of ten and are read back -/
def digitsAt? (window : Window) (exponent place : Int) : Option Nat :=
  let (num, den) := scaled 2 window.middle 1 (exponent - 2)
  let (n, d) := scaled 10 num den (-place)
  let below := n / d
  let reads (digits : Nat) : Bool :=
    let (num, den) := scaled 10 digits 1 place
    let (n, d) := scaled 2 num den (2 - exponent)
    window.holds n d
  let isNearer := 2 * (n % d) < d
  match reads below, reads (below + 1) with
  | true, true => some (if isNearer then below else below + 1)
  | true, false => some below
  | false, true => some (below + 1)
  | false, false => none

/-- digits and the power of ten of their last one, found by adding one digit after another; seventeen always suffice -/
def digitsFrom (window : Window) (exponent : Int) : Nat → Int → Nat × Int
  | 0, place => ((digitsAt? window exponent place).getD 0, place)
  | more + 1, place =>
    match digitsAt? window exponent place with
    | some digits => (digits, place)
    | none => digitsFrom window exponent more (place - 1)

/-- the fewest digits that are read back as a number that is not zero -/
def digits (significand : Nat) (exponent : Int) : Nat × Int :=
  let (num, den) := scaled 2 significand 1 exponent
  digitsFrom (window significand exponent) exponent 16 (magnitude num den)

def dropZeros (fraction : List Char) : List Char := (fraction.reverse.dropWhile (· == '0')).reverse

/-- digits times a power of ten, with a point if there is a fraction -/
def positional (digits : Nat) (place : Int) : List Char :=
  if 0 ≤ place then Text.numeral (digits * Nat.pow 10 place.toNat)
  else
    let all := Text.padded (place.natAbs + 1) digits
    let whole := all.take (all.length - place.natAbs)
    let fraction := dropZeros (all.drop (all.length - place.natAbs))
    if fraction.isEmpty then whole else whole ++ '.' :: fraction

/-- the text of a number; what is no number has no sign -/
def chars : Double → List Char
  | .undefined => "NaN".toList
  | .infinite isNegative => if isNegative then "-inf".toList else "inf".toList
  | .finite isNegative significand exponent =>
    let unsigned :=
      if significand = 0 then ['0']
      else
        let (digits, place) := digits significand exponent
        positional digits place
    if isNegative then '-' :: unsigned else unsigned

def render (number : Double) : String := String.ofList number.chars

end AttemptLog.Double
