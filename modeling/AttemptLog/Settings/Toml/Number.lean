import AttemptLog.Settings.Setting
/-!
Numbers of a settings file.

Whole numbers fit into sixty-four bits; they may be written in the bases two, eight, ten and sixteen. Single underscores
may stand between digits. A number with a fraction or an exponent is the nearest one of double precision, and is refused
if that is infinite; an infinite number has a name of its own, and so has what is no number.
-/
namespace AttemptLog.Toml

/-- digits of a base with single underscores between them -/
def areDigits (isIn : Char → Bool) : List Char → Bool
  | [] => false
  | [c] => isIn c
  | c :: '_' :: rest => isIn c && areDigits isIn rest
  | c :: rest => isIn c && areDigits isIn rest

/-- the value of digits, without the underscores between them -/
def digitsValue (base : Nat) (digits : List Char) : Nat :=
  (digits.filter (· != '_')).foldl (fun value c => value * base + (Text.digitValue? c).getD 0) 0

/-- is this a whole number without a needless zero in front -/
def isWhole (digits : List Char) : Bool :=
  areDigits Char.isDigit digits && (digits.length == 1 || digits.head? != some '0')

/-- a whole number of sixty-four bits -/
def integer? (value : Int) : Option Setting :=
  if -Nat.pow 2 63 ≤ value ∧ value < Nat.pow 2 63 then some (.integer value) else none

def radix? (base : Nat) (isIn : Char → Bool) (digits : List Char) : Option Setting :=
  if areDigits isIn digits then integer? (digitsValue base digits) else none

/-- an exponent: a sign and digits -/
def exponent? (chars : List Char) : Option Int :=
  match chars with
  | '-' :: digits => if areDigits Char.isDigit digits then some (-(digitsValue 10 digits : Int)) else none
  | '+' :: digits => if areDigits Char.isDigit digits then some (digitsValue 10 digits) else none
  | digits => if areDigits Char.isDigit digits then some (digitsValue 10 digits) else none

/-- a number with a fraction or an exponent, after its sign -/
def fraction? (isNegative : Bool) (chars : List Char) : Option Double :=
  let isExponent (c : Char) : Bool := c == 'e' || c == 'E'
  let mantissa := chars.takeWhile fun c => !isExponent c
  let whole := mantissa.takeWhile (· != '.')
  let fraction := mantissa.dropWhile (· != '.')
  let exponent :=
    match chars.dropWhile fun c => !isExponent c with
    | [] => some 0
    | _ :: rest => exponent? rest
  if isWhole whole && (fraction.isEmpty || areDigits Char.isDigit fraction.tail) then
    exponent.bind fun exponent =>
      let places := (fraction.tail.filter (· != '_')).length
      let number := Double.ofDecimal isNegative (digitsValue 10 (whole ++ fraction.tail)) (exponent - places)
      if number = .infinite isNegative then none else some number
  else none

/-- a number after its sign -/
def unsigned? (isNegative : Bool) (chars : List Char) : Option Setting :=
  if chars = "inf".toList then some (.fraction (.infinite isNegative))
  else if chars = "nan".toList then some (.fraction .undefined)
  else if isWhole chars then integer? (if isNegative then -(digitsValue 10 chars : Int) else digitsValue 10 chars)
  else (fraction? isNegative chars).map .fraction

def number? (chars : List Char) : Option Setting :=
  match chars with
  | '+' :: rest => unsigned? false rest
  | '-' :: rest => unsigned? true rest
  | '0' :: 'x' :: rest => radix? 16 Text.isHexDigit rest
  | '0' :: 'o' :: rest => radix? 8 (fun c => '0' ≤ c && c ≤ '7') rest
  | '0' :: 'b' :: rest => radix? 2 (fun c => c == '0' || c == '1') rest
  | rest => unsigned? false rest

end AttemptLog.Toml
