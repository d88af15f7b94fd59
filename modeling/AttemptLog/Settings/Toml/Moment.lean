import AttemptLog.Instant
import AttemptLog.Text.Digits
/-!
Days and times of a settings file.

A day must be one of the calendar. A time of the day may leave out its second, and may have a fraction of its second;
after a day it may also say how far its place is ahead of UTC. A setting that is a day or a time is its text in one
form: at most nine digits of the fraction count, and zeros at their end do not.
-/
namespace AttemptLog.Toml

def pair? (a b : Char) : Option Nat := if a.isDigit ∧ b.isDigit then some (Text.value [a, b]) else none

def isDay (chars : List Char) : Bool :=
  match chars with
  | [a, b, c, d, '-', e, f, '-', g, h] =>
    match pair? a b, pair? c d, pair? e f, pair? g h with
    | some century, some year, some month, some day =>
      1 ≤ month && month ≤ 12 && 1 ≤ day && day ≤ daysIn (century * 100 + year : Nat) month
    | _, _, _, _ => false
  | _ => false

/-- a pair of digits up to a greatest value, and what follows it -/
def readPair? (greatest : Nat) (chars : List Char) : Option (List Char × List Char) :=
  match chars with
  | a :: b :: rest =>
    match pair? a b with
    | some value => if value ≤ greatest then some ([a, b], rest) else none
    | none => none
  | _ => none

/-- the fraction of a second in one form, and what follows it -/
def readFraction? (chars : List Char) : Option (List Char × List Char) :=
  match chars with
  | '.' :: rest =>
    let digits := rest.takeWhile Char.isDigit
    let kept := ((digits.take 9).reverse.dropWhile (· == '0')).reverse
    if digits.isEmpty then none
    else some ('.' :: (if kept.isEmpty then ['0'] else kept), rest.dropWhile Char.isDigit)
  | rest => some ([], rest)

/-- the second of a time with its fraction, if it is there, and what follows it -/
def readSecond? (chars : List Char) : Option (List Char × List Char) :=
  match chars with
  | ':' :: rest => do
    let (second, rest) ← readPair? 60 rest
    let (fraction, rest) ← readFraction? rest
    some (':' :: second ++ fraction, rest)
  | rest => some ([], rest)

def readClock? (chars : List Char) : Option (List Char × List Char) := do
  let (hour, rest) ← readPair? 23 chars
  match rest with
  | ':' :: rest => do
    let (minute, rest) ← readPair? 59 rest
    let (second, rest) ← readSecond? rest
    some (hour ++ ':' :: minute ++ second, rest)
  | _ => none

/-- how far a place is ahead of UTC: a letter, or hours and minutes after a sign; no distance is never behind -/
def zone? (chars : List Char) : Option (List Char) :=
  match chars with
  | ['Z'] | ['z'] => some ['Z']
  | [sign, a, b, ':', c, d] =>
    match pair? a b, pair? c d with
    | some hour, some minute =>
      if (sign = '+' ∨ sign = '-') ∧ hour ≤ 23 ∧ minute ≤ 59 then
        some ((if hour = 0 ∧ minute = 0 then '+' else sign) :: [a, b, ':', c, d])
      else none
    | _, _ => none
  | _ => none

/-- a day, a time of a day or both, as a text in one form -/
def moment? (chars : List Char) : Option String :=
  if isDay (chars.take 10) then
    match chars.drop 10 with
    | [] => some (String.ofList chars)
    | separator :: rest =>
      if separator = 'T' ∨ separator = 't' ∨ separator = ' ' then do
        let (clock, rest) ← readClock? rest
        let zone ← if rest.isEmpty then some [] else zone? rest
        some (String.ofList (chars.take 10 ++ 'T' :: clock ++ zone))
      else none
  else
    match readClock? chars with
    | some (clock, []) => some (String.ofList clock)
    | _ => none

end AttemptLog.Toml
