import CentralSystem.Binary64
import CentralSystem.Digit
import CentralSystem.Message.Request

namespace CentralSystem

inductive Reading where
  | finite (negative : Bool) (coefficient : Nat) (exponent : Int)
  | infinite (negative : Bool)
  | notANumber
deriving DecidableEq, Repr

namespace Reading

def exponent? : List Char → Option Int
  | [] => some 0
  | c :: cs =>
    if c = 'e' ∨ c = 'E' then
      let (negative, cs) := match cs with
        | '-' :: cs => (true, cs)
        | '+' :: cs => (false, cs)
        | cs => (false, cs)
      match Digit.span cs.length cs with
      | (d :: ds, []) =>
        let n : Int := Digit.value (d :: ds)
        some (if negative then -n else n)
      | _ => none
    else none

def number? (negative : Bool) (cs : List Char) : Option Reading :=
  let (whole, rest) := Digit.span cs.length cs
  let (fraction, rest) := match rest with
    | '.' :: cs => Digit.span cs.length cs
    | cs => ([], cs)
  if whole.isEmpty && fraction.isEmpty then none
  else (exponent? rest).map fun e => .finite negative (Digit.value (whole ++ fraction))
    (e - fraction.length)

def unsigned? (negative : Bool) (cs : List Char) : Option Reading :=
  match String.ofList (cs.map Char.toLower) with
  | "inf" | "infinity" => some (.infinite negative)
  | "nan" => some .notANumber
  | _ => number? negative cs

def parse? : List Char → Option Reading
  | '-' :: cs => unsigned? true cs
  | '+' :: cs => unsigned? false cs
  | cs => unsigned? false cs

def signed (negative : Bool) (n : Nat) : Int := if negative then -n else n

/-- Whole units, a half away from zero, kept within 32 bits. Numbers far out of range are not
computed. -/
def toInt32 (kilo : Bool) : Reading → Int32
  | .notANumber => 0
  | .infinite negative => .ofIntClamp (signed negative (2 ^ 31))
  | .finite negative coefficient exponent =>
    let digits : Int := (Nat.toDigits 10 coefficient).length
    if coefficient = 0 ∨ digits + exponent < -30 then 0
    else if 30 < digits + exponent then .ofIntClamp (signed negative (2 ^ 31))
    else
      let read := Binary64.nearest? coefficient exponent
      match if kilo then read.bind fun x => Binary64.ofRatio? (1000 * x.num) x.den else read with
      | some x => .ofIntClamp (signed negative ((2 * x.num + x.den) / (2 * x.den)))
      | none => 0

end Reading

namespace SampledValue

def isEnergy (s : SampledValue) : Bool :=
  s.measurand.all (· == .energyActiveImportRegister)

/-- The energy register in watt hours. -/
def wattHours? (s : SampledValue) : Option Int32 :=
  if s.isEnergy then
    (Reading.parse? s.value.toList).map (·.toInt32 (s.unit == some .kiloWattHour))
  else none

end SampledValue

def MeterValue.readings (context : ReadingContext) (data : List MeterValue) :
    List (Int32 × Timestamp) :=
  data.flatMap fun m => (m.sampledValue.filter (·.context == some context)).filterMap fun s =>
    s.wattHours?.map (·, m.timestamp)

def MeterValue.lastReading? (context : ReadingContext) (data : List MeterValue) :
    Option (Int32 × Timestamp) :=
  (readings context data).getLast?

end CentralSystem
