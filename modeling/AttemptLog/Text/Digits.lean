/-!
Decimal numerals as lists of digits.
-/
namespace AttemptLog.Text

/-- the decimal numeral of a number, without leading zeros -/
def numeral (n : Nat) : List Char := Nat.toDigits 10 n

/-- the numeral with zeros in front, up to the given width -/
def padded (width n : Nat) : List Char := (numeral n).leftpad width '0'

/-- the value of one digit, in bases up to sixteen; other characters have none -/
def digitValue? (c : Char) : Option Nat :=
  if '0' ≤ c ∧ c ≤ '9' then some (c.toNat - '0'.toNat)
  else if 'a' ≤ c ∧ c ≤ 'f' then some (c.toNat - 'a'.toNat + 10)
  else if 'A' ≤ c ∧ c ≤ 'F' then some (c.toNat - 'A'.toNat + 10)
  else none

def value (digits : List Char) : Nat := Nat.ofDigitChars 10 digits 0

def isHexDigit (c : Char) : Bool := (digitValue? c).isSome

theorem value_numeral (n : Nat) : value (numeral n) = n := by
  simp [value, numeral]

end AttemptLog.Text
