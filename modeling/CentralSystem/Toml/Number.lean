import CentralSystem.Timestamp
import CentralSystem.Toml.Text

namespace CentralSystem.Toml

def radixDigit? (radix : Nat) (c : Char) : Option Nat := (Json.hexDigit? c).filter (· < radix)

def moreDigits (radix : Nat) : List Char → List Nat × List Char
  | [] => ([], [])
  | '_' :: c :: cs =>
    match radixDigit? radix c with
    | some d => let (ds, rest) := moreDigits radix cs; (d :: ds, rest)
    | none => ([], '_' :: c :: cs)
  | c :: cs =>
    match radixDigit? radix c with
    | some d => let (ds, rest) := moreDigits radix cs; (d :: ds, rest)
    | none => ([], c :: cs)

def readDigits (radix : Nat) : Read (List Nat) := fun cs =>
  match cs with
  | [] => none
  | c :: cs => (radixDigit? radix c).map fun d =>
      let (ds, rest) := moreDigits radix cs
      (d :: ds, rest)

def valueOf (radix : Nat) (digits : List Nat) : Nat := digits.foldl (radix * · + ·) 0

def readSign : Read Bool := do
  match ← get with
  | '-' :: cs => set cs; return true
  | '+' :: cs => set cs; return false
  | _ => return false

def readWhole : Read Nat := do
  match ← get with
  | '0' :: cs => set cs; return 0
  | _ => return valueOf 10 (← readDigits 10)

def readInteger : Read Int := do
  let n : Int ← match ← get with
    | '0' :: 'x' :: cs => set cs; pure (valueOf 16 (← readDigits 16))
    | '0' :: 'o' :: cs => set cs; pure (valueOf 8 (← readDigits 8))
    | '0' :: 'b' :: cs => set cs; pure (valueOf 2 (← readDigits 2))
    | _ =>
      let negative ← readSign
      let n ← readWhole
      pure (if negative then -n else n)
  if -2 ^ 63 ≤ n ∧ n < 2 ^ 63 then return n else failure

def readExponent : Read (Bool × List Nat) := do
  match ← get with
  | 'e' :: cs | 'E' :: cs =>
    set cs
    let negative ← readSign
    return (negative, ← readDigits 10)
  | _ => failure

/-- Whether a number of these digits, with the point behind the first `whole` of them moved by the
exponent, is too large for binary numbers of 64 bits. -/
def isHuge (whole : Nat) (fraction : List Nat) (exponent : Int) : Bool :=
  let coefficient := valueOf 10 (whole :: fraction)
  let places : Int := exponent - fraction.length
  if coefficient = 0 then false
  else if 400 < places + (Nat.toDigits 10 coefficient).length then true
  else if places + (Nat.toDigits 10 coefficient).length < 300 then false
  else 2 ^ 1024 - 2 ^ 970 ≤ coefficient * 10 ^ places.toNat / 10 ^ (-places).toNat

def readFraction : Read Unit := do
  let negative ← readSign
  let whole ← readWhole
  let fraction ← (do expect ['.']; readDigits 10) <|> pure []
  let exponent ← if fraction.isEmpty then some <$> readExponent else optional readExponent
  let e : Int := match exponent with
    | some (true, ds) => -valueOf 10 ds
    | some (false, ds) => valueOf 10 ds
    | none => 0
  if !negative && isHuge whole fraction e then failure

def readFloat : Read Unit :=
  readFraction <|> do
    let _ ← readSign
    expect ['i', 'n', 'f'] <|> expect ['n', 'a', 'n']

def readFixed (count least greatest : Nat) : Read Nat := fun cs =>
  match Digit.span count cs with
  | (ds, rest) =>
    let n := Digit.value ds
    if ds.length = count ∧ least ≤ n ∧ n ≤ greatest then some (n, rest) else none

def readDate : Read Unit := do
  let year ← readFixed 4 0 9999
  expect ['-']
  let month ← readFixed 2 1 12
  expect ['-']
  let _ ← readFixed 2 1 (daysInMonth year month)

def readTime : Read Unit := do
  let _ ← readFixed 2 0 23
  expect [':']
  let _ ← readFixed 2 0 59
  expect [':']
  let _ ← readFixed 2 0 60
  (do
    expect ['.']
    let _ ← readFixed 1 0 9
    modify (·.dropWhile Char.isDigit)) <|> pure ()

def readOffset : Read Unit :=
  expect ['Z'] <|> expect ['z'] <|> do
    expect ['+'] <|> expect ['-']
    let _ ← readFixed 2 0 23
    expect [':']
    let _ ← readFixed 2 0 59

def readMoment : Read Unit :=
  (do
    readDate
    (do
      expect ['T'] <|> expect ['t'] <|> expect [' ']
      readTime
      readOffset <|> pure ()) <|> pure ())
  <|> readTime

end CentralSystem.Toml
