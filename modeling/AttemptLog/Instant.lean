/-!
Instants of time in the proleptic Gregorian calendar, in UTC and to the nanosecond.

A leap second is written down as the second before it with a count of nanoseconds above one second, so it can follow
the last second of any minute.
-/
namespace AttemptLog

def isLeapYear (year : Int) : Bool := year % 4 == 0 && (year % 100 != 0 || year % 400 == 0)

def daysIn (year : Int) (month : Nat) : Nat :=
  if month = 2 then (if isLeapYear year then 29 else 28)
  else if month = 4 ∨ month = 6 ∨ month = 9 ∨ month = 11 then 30
  else 31

/-- is there such a day in the years that dates reach -/
def IsDate (year : Int) (month day : Nat) : Prop :=
  -262143 ≤ year ∧ year ≤ 262142 ∧ 1 ≤ month ∧ month ≤ 12 ∧ 1 ≤ day ∧ day ≤ daysIn year month

instance (year : Int) (month day : Nat) : Decidable (IsDate year month day) := by
  unfold IsDate; infer_instance

structure Date where
  year : Int
  month : Nat
  day : Nat
  isDate : IsDate year month day
  deriving DecidableEq

namespace Date

def of? (year : Int) (month day : Nat) : Option Date :=
  if h : IsDate year month day then some ⟨year, month, day, h⟩ else none

def next? (date : Date) : Option Date :=
  of? date.year date.month (date.day + 1) <|> of? date.year (date.month + 1) 1 <|> of? (date.year + 1) 1 1

def previous? (date : Date) : Option Date :=
  if 1 < date.day then of? date.year date.month (date.day - 1)
  else if 1 < date.month then of? date.year (date.month - 1) (daysIn date.year (date.month - 1))
  else of? (date.year - 1) 12 31

end Date

def daySeconds : Nat := 86400

def secondNanos : Nat := 1000000000

/-- are these a second of a day and nanoseconds after it; a leap second can follow only the last second of a minute -/
def IsClock (second nano : Nat) : Prop :=
  second < daySeconds ∧ nano < 2 * secondNanos ∧ (secondNanos ≤ nano → second % 60 = 59)

instance (second nano : Nat) : Decidable (IsClock second nano) := by
  unfold IsClock; infer_instance

/-- an instant of time: a day, a second of that day and nanoseconds after that second -/
structure Instant where
  date : Date
  second : Nat
  nano : Nat
  isClock : IsClock second nano
  deriving DecidableEq

namespace Instant

def of? (date : Date) (second nano : Nat) : Option Instant :=
  if h : IsClock second nano then some ⟨date, second, nano, h⟩ else none

def year2024 : Instant :=
  ⟨⟨2024, 1, 1, by decide⟩, 0, 0, by decide⟩

/-- the instant at which a clock shows this time, where clocks are this many minutes ahead of UTC -/
def ofLocal? (date : Date) (second nano : Nat) (ahead : Int) : Option Instant :=
  let total := (second : Int) - ahead * 60
  if total < 0 then date.previous?.bind fun day => of? day (total + daySeconds).toNat nano
  else if total < daySeconds then of? date total.toNat nano
  else date.next?.bind fun day => of? day (total - daySeconds).toNat nano

end Instant

end AttemptLog
