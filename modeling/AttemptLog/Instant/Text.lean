import AttemptLog.Instant
import AttemptLog.Text.Class
import AttemptLog.Text.Digits
/-!
The text of an instant.

Writing gives one form: date, the letter T, time, as many digits of the fraction as its thousands need, and the letter
Z. Years outside the four digit ones carry a sign. Reading is wider: numbers may be short or have blanks in front, the
date may be followed by a blank, and the time may be that of a place ahead of or behind UTC.
-/
namespace AttemptLog.Instant

open AttemptLog.Text

/-- a year: four digits, or a sign and at least four digits outside the years 0 to 9999 -/
def yearChars (year : Int) : List Char :=
  if 0 ≤ year ∧ year ≤ 9999 then padded 4 year.natAbs
  else (if year < 0 then '-' else '+') :: padded 4 year.natAbs

/-- the fraction of a second in nanoseconds, in as few groups of three digits as it needs -/
def fractionChars (nanos : Nat) : List Char :=
  if nanos = 0 then []
  else if nanos % 1000000 = 0 then '.' :: padded 3 (nanos / 1000000)
  else if nanos % 1000 = 0 then '.' :: padded 6 (nanos / 1000)
  else '.' :: padded 9 nanos

/-- the second of a minute; a leap second is the sixtieth -/
def secondOfMinute (instant : Instant) : Nat :=
  if secondNanos ≤ instant.nano then 60 else instant.second % 60

def chars (instant : Instant) : List Char :=
  yearChars instant.date.year ++ '-' :: padded 2 instant.date.month ++ '-' :: padded 2 instant.date.day ++
    'T' :: padded 2 (instant.second / 3600) ++ ':' :: padded 2 (instant.second / 60 % 60) ++
    ':' :: padded 2 instant.secondOfMinute ++ fractionChars (instant.nano % secondNanos) ++ ['Z']

def render (instant : Instant) : String := String.ofList instant.chars

/-- the decimal digits in front, at most this many, and what follows them -/
def spanDigits : Nat → List Char → List Char × List Char
  | 0, chars => ([], chars)
  | _, [] => ([], [])
  | width + 1, c :: rest =>
    if c.isDigit then ((c :: (spanDigits width rest).1), (spanDigits width rest).2) else ([], c :: rest)

/-- a number of at least one digit and at most this many -/
def readNumber? (width : Nat) (chars : List Char) : Option (Nat × List Char) :=
  match spanDigits width chars with
  | ([], _) => none
  | (digits, rest) => some (value digits, rest)

/-- a number with blanks in front -/
def readField? (width : Nat) (chars : List Char) : Option (Nat × List Char) := readNumber? width (skipBlanks chars)

/-- a year of up to four digits, or of any number of digits after a sign -/
def readYear? (chars : List Char) : Option (Int × List Char) :=
  match skipBlanks chars with
  | '-' :: rest => (readNumber? rest.length rest).map fun (year, rest) => (-(year : Int), rest)
  | '+' :: rest => (readNumber? rest.length rest).map fun (year, rest) => ((year : Int), rest)
  | chars => (readNumber? 4 chars).map fun (year, rest) => ((year : Int), rest)

/-- what follows a mark that may have blanks in front -/
def readMark? (mark : Char) (chars : List Char) : Option (List Char) :=
  match skipBlanks chars with
  | c :: rest => if c = mark then some rest else none
  | [] => none

/-- the fraction of a second in nanoseconds; digits after the ninth do not count -/
def readFraction? : List Char → Option (Nat × List Char)
  | '.' :: chars =>
    match spanDigits 9 chars with
    | ([], _) => none
    | (digits, rest) => some (value digits * Nat.pow 10 (9 - digits.length), rest.dropWhile Char.isDigit)
  | chars => some (0, chars)

/-- two digits of an offset -/
def readPair? : List Char → Option (Nat × List Char)
  | a :: b :: rest => if a.isDigit ∧ b.isDigit then some (value [a, b], rest) else none
  | _ => none

/-- the minutes of an offset after its hours; colons and blanks may stand between them -/
def readOffsetMinutes? (chars : List Char) : Option (Nat × List Char) :=
  (readPair? (chars.dropWhile fun c => c == ':' || isBlank c)).bind fun (minutes, rest) =>
    if minutes < 60 then some (minutes, rest) else none

/-- how many minutes ahead of UTC a clock is: a letter for UTC, or a sign, hours and minutes below one day -/
def readOffset? (chars : List Char) : Option (Int × List Char) :=
  match chars with
  | 'Z' :: rest => some (0, rest)
  | 'z' :: rest => some (0, rest)
  | sign :: rest =>
    if (chars.take 3).map Char.toUpper = ['U', 'T', 'C'] then some (0, chars.drop 3)
    else if sign = '+' ∨ sign = '-' ∨ sign = '\u2212' then do
      let (hours, rest) ← readPair? rest
      let (minutes, rest) ← readOffsetMinutes? rest
      if hours < 24 then
        let ahead := (hours * 60 + minutes : Int)
        some (if sign = '+' then ahead else -ahead, rest)
      else none
    else none
  | [] => none

/-- the mark between date and time -/
def readSeparator? : List Char → Option (List Char)
  | c :: rest => if c = 'T' ∨ c = 't' ∨ c = ' ' then some rest else none
  | [] => none

def read? (chars : List Char) : Option Instant := do
  let (year, chars) ← readYear? chars
  let chars ← readMark? '-' chars
  let (month, chars) ← readField? 2 chars
  let chars ← readMark? '-' chars
  let (day, chars) ← readField? 2 chars
  let chars ← readSeparator? chars
  let (hour, chars) ← readField? 2 chars
  let chars ← readMark? ':' chars
  let (minute, chars) ← readField? 2 chars
  let chars ← readMark? ':' chars
  let (second, chars) ← readField? 2 chars
  let (fraction, chars) ← readFraction? chars
  let (ahead, chars) ← readOffset? (skipBlanks chars)
  let date ← Date.of? year month day
  if skipBlanks chars = [] ∧ hour < 24 ∧ minute < 60 ∧ second ≤ 60 then
    let minutes := hour * 60 + minute
    if second = 60 then ofLocal? date (minutes * 60 + 59) (secondNanos + fraction) ahead
    else ofLocal? date (minutes * 60 + second) fraction ahead
  else none

end AttemptLog.Instant
