import CentralSystem.Text
import CentralSystem.Timestamp

namespace CentralSystem

inductive TimestampError where
  | outOfRange
  | invalid
  | tooShort
  | trailing
  | impossible
deriving DecidableEq, Repr

def TimestampError.message : TimestampError → String
  | outOfRange => "input is out of range"
  | invalid => "input contains invalid characters"
  | tooShort => "premature end of input"
  | trailing => "trailing input"
  | impossible => "no possible date and time matching input"

namespace Timestamp

abbrev Read := StateT (List Char) (Except TimestampError)

def skipBlanks : Read Unit := modify (·.dropWhile Text.isBlank)

def readDigits (most : Nat) : Read (List Digit) := fun cs =>
  match cs, Digit.span most cs with
  | [], _ => .error .tooShort
  | _, ([], _) => .error .invalid
  | _, (ds, rest) => .ok (ds, rest)

def readField (least greatest : Nat) : Read Nat := do
  skipBlanks
  let n := Digit.value (← readDigits 2)
  if least ≤ n ∧ n ≤ greatest then return n else throw .outOfRange

/-- A year of up to four digits, or of any number of digits behind a sign. -/
def readYear : Read Int := do
  skipBlanks
  let year : Int ← match ← get with
    | '-' :: cs => set cs; pure (-Digit.value (← readDigits cs.length))
    | '+' :: cs => set cs; pure (Digit.value (← readDigits cs.length))
    | _ => pure (Digit.value (← readDigits 4))
  if -2 ^ 31 ≤ year ∧ year < 2 ^ 31 then return year else throw .outOfRange

def readSeparator (c : Char) : Read Unit := do
  skipBlanks
  match ← get with
  | [] => throw .tooShort
  | d :: rest => if d = c then set rest else throw .invalid

def readDate : Read Date := do
  let year ← readYear
  readSeparator '-'
  let month ← readField 1 12
  readSeparator '-'
  return ⟨year, month, ← readField 1 31⟩

/-- The fraction of a second, in nanoseconds. Digits behind the ninth are dropped. -/
def readFraction : Read Nat := do
  match ← get with
  | '.' :: cs =>
    set cs
    let ds ← readDigits 9
    modify (·.dropWhile fun c => (Digit.ofChar? c).isSome)
    return Digit.value ds * 10 ^ (9 - ds.length)
  | _ => return 0

def readTime : Read TimeOfDay := do
  let hour ← readField 0 23
  readSeparator ':'
  let minute ← readField 0 59
  readSeparator ':'
  let second ← readField 0 60
  return ⟨hour, minute, second, ← readFraction⟩

/-- The two digits of an hour or minute of an offset. A lone character of more than one byte is no
digit, and not the end of the text. -/
def readPair : Read (Digit × Digit) := do
  match ← get with
  | [] => throw .tooShort
  | [c] => throw (if c.utf8Size < 2 then .tooShort else .invalid)
  | c :: d :: rest =>
    set rest
    match Digit.ofChar? c, Digit.ofChar? d with
    | some a, some b => return (a, b)
    | _, _ => throw .invalid

def readOffset : Read Nat := do
  let (h, h') ← readPair
  modify (·.dropWhile fun c => c == ':' || Text.isBlank c)
  let (m, m') ← readPair
  if m.val < 6 then return (10 * h.val + h'.val) * 60 + (10 * m.val + m'.val)
  else throw .outOfRange

def isUtc (a b c : Char) : Bool := a.toUpper == 'U' && b.toUpper == 'T' && c.toUpper == 'C'

/-- The offset of a zone from UTC in minutes: a `Z`, or hours and minutes behind a sign. -/
def readSignedOffset : Read Int := do
  match ← get with
  | [] => throw .tooShort
  | c :: cs =>
    set cs
    if c = 'Z' ∨ c = 'z' then return 0
    else if c = '+' then return (← readOffset)
    else if c = '-' ∨ c = '\u2212' then return -(← readOffset)
    else throw .invalid

def readZone : Read Int := do
  match ← get with
  | a :: b :: c :: rest => if isUtc a b c then set rest; return 0 else readSignedOffset
  | _ => readSignedOffset

def ofParts (date : Date) (time : TimeOfDay) : Except TimestampError Timestamp :=
  if h : date.isValid = true ∧ time.isValid = true then .ok ⟨date, time, h.1, h.2⟩
  else .error .impossible

def ofLocal (date : Date) (time : TimeOfDay) (offset : Int) : Except TimestampError Timestamp :=
  if !date.isValid || !time.isValid || offset.natAbs ≥ 1440 then .error .outOfRange
  else
    let minutes : Int := 60 * time.hour + time.minute - offset
    let date :=
      if minutes < 0 then date.previous else if 1440 ≤ minutes then date.next else date
    let minutes := (minutes % 1440).toNat
    ofParts date { time with hour := minutes / 60, minute := minutes % 60 }

def readLocal : Read (Date × TimeOfDay × Int) := do
  let date ← readDate
  match ← get with
  | [] => throw .tooShort
  | c :: cs => if c = 't' ∨ c = 'T' ∨ c = ' ' then set cs else throw .invalid
  let time ← readTime
  skipBlanks
  let offset ← readZone
  skipBlanks
  return (date, time, offset)

def read (cs : List Char) : Except TimestampError Timestamp :=
  match readLocal cs with
  | .error e => .error e
  | .ok ((date, time, offset), []) => ofLocal date time offset
  | .ok _ => .error .trailing

def ofString (s : String) : Except TimestampError Timestamp := read s.toList

end Timestamp

end CentralSystem
