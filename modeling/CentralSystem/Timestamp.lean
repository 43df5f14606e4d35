import CentralSystem.Digit

namespace CentralSystem

def isLeapYear (year : Int) : Bool := year % 4 == 0 && (year % 100 != 0 || year % 400 == 0)

def daysInMonth (year : Int) (month : Nat) : Nat :=
  match month with
  | 1 | 3 | 5 | 7 | 8 | 10 | 12 => 31
  | 4 | 6 | 9 | 11 => 30
  | 2 => if isLeapYear year then 29 else 28
  | _ => 0

structure Date where
  year : Int
  month : Nat
  day : Nat
deriving DecidableEq, Inhabited, Repr

namespace Date

def minYear : Int := -262143

def maxYear : Int := 262142

def isValid (d : Date) : Bool :=
  minYear ≤ d.year && d.year ≤ maxYear && 1 ≤ d.month && d.month ≤ 12 && 1 ≤ d.day &&
  d.day ≤ daysInMonth d.year d.month

def next (d : Date) : Date :=
  if d.day < daysInMonth d.year d.month then { d with day := d.day + 1 }
  else if d.month < 12 then ⟨d.year, d.month + 1, 1⟩
  else ⟨d.year + 1, 1, 1⟩

def previous (d : Date) : Date :=
  if 1 < d.day then { d with day := d.day - 1 }
  else if 1 < d.month then ⟨d.year, d.month - 1, daysInMonth d.year (d.month - 1)⟩
  else ⟨d.year - 1, 12, 31⟩

end Date

structure TimeOfDay where
  hour : Nat
  minute : Nat
  second : Nat
  nanos : Nat
deriving DecidableEq, Inhabited, Repr

def TimeOfDay.isValid (t : TimeOfDay) : Bool :=
  t.hour < 24 && t.minute < 60 && t.second ≤ 60 && t.nanos < 1000000000

structure Timestamp where
  date : Date
  time : TimeOfDay
  date_valid : date.isValid = true := by decide
  time_valid : time.isValid = true := by decide
deriving DecidableEq

namespace Timestamp

def epoch : Timestamp := { date := ⟨1970, 1, 1⟩, time := ⟨0, 0, 0, 0⟩ }

instance : Inhabited Timestamp := ⟨epoch⟩

/-- The year in four digits; outside 0 to 9999 it has a sign, and more digits if needed. -/
def yearChars (year : Int) : List Char :=
  if 0 ≤ year ∧ year ≤ 9999 then Digit.padded 4 year.natAbs
  else (if year < 0 then '-' else '+') :: Digit.padded 4 year.natAbs

/-- The fraction of a second in 3, 6 or 9 digits, the fewest that are exact. -/
def fractionChars (nanos : Nat) : List Char :=
  if nanos = 0 then []
  else if nanos % 1000000 = 0 then '.' :: Digit.padded 3 (nanos / 1000000)
  else if nanos % 1000 = 0 then '.' :: Digit.padded 6 (nanos / 1000)
  else '.' :: Digit.padded 9 nanos

def chars (t : Timestamp) : List Char :=
  yearChars t.date.year ++ '-' :: Digit.padded 2 t.date.month ++ '-' :: Digit.padded 2 t.date.day ++
  'T' :: Digit.padded 2 t.time.hour ++ ':' :: Digit.padded 2 t.time.minute ++
  ':' :: Digit.padded 2 t.time.second ++ fractionChars t.time.nanos ++ ['Z']

def render (t : Timestamp) : String := String.ofList t.chars

end Timestamp

end CentralSystem
