import CentralSystem.Digit
import CentralSystem.Json.Value

namespace CentralSystem

structure Decimal where
  negative : Bool
  coefficient : Nat
  scale : Nat
  coefficient_lt : coefficient < 2 ^ 96 := by decide
  scale_le : scale ≤ 28 := by decide
  /-- Only what was rounded to zero at the last place is a zero with a sign. -/
  negative_zero : negative = true → coefficient ≠ 0 ∨ scale = 28 := by decide
deriving DecidableEq

inductive DecimalError where
  | malformed
  | tooManyDigits
  | tooLargeRounded
  | tooLarge
  | scale (places : Nat)
deriving DecidableEq, Repr

namespace DecimalError

def message : DecimalError → String
  | malformed => "Failed to parse"
  | tooManyDigits => "Invalid decimal: overflow from too many digits"
  | tooLargeRounded => "Invalid decimal: overflow from mantissa after rounding"
  | tooLarge => "Number exceeds maximum value that can be represented."
  | scale places => "Scale exceeds the maximum precision allowed: " ++ toString places ++ " > 28"

end DecimalError

namespace Decimal

def ofParts (negative : Bool) (coefficient scale : Nat) : Except DecimalError Decimal :=
  if hs : scale ≤ 28 then
    if hc : coefficient < 2 ^ 96 then
      .ok ⟨negative && coefficient != 0, coefficient, scale, hc, hs, by simp +contextual⟩
    else .error .tooLarge
  else .error (.scale scale)

instance : Inhabited Decimal := ⟨{ negative := false, coefficient := 0, scale := 0 }⟩

def ofInt32 (i : Int32) : Decimal where
  negative := decide (i.toInt < 0)
  coefficient := 10 * i.toInt.natAbs
  scale := 1
  coefficient_lt := by have := i.toInt_lt; have := i.le_toInt; omega
  negative_zero := by simp; omega

def toNumeral (d : Decimal) : Numeral :=
  ⟨d.negative, d.coefficient / 10 ^ d.scale, Digit.lowest d.scale d.coefficient, none⟩

/-- The decimal whose first digit that does not fit is `d`. Behind it stand digits, which may be
parted by underscores. -/
def roundAt (negative : Bool) (coefficient scale : Nat) (d : Digit) (rest : List Char) :
    Except DecimalError Decimal :=
  if !rest.all fun c => (Digit.ofChar? c).isSome || c == '_' then .error .malformed
  else if d.val < 5 then ofParts negative coefficient scale
  else if coefficient + 1 < 2 ^ 96 then ofParts negative (coefficient + 1) scale
  else if scale = 0 then .error .tooLargeRounded
  else ofParts negative ((coefficient + 5) / 10) (scale - 1)

/-- From here on one more digit is no longer sure to fit 64 bits. -/
def wideFrom : Nat := (2 ^ 64 - 1) / 10 - 255

/-- Reads digits with at most one point; digits may be parted by underscores. An underscore that
stands where the first digit does not fit is passed over if the digits before it are wide, and counts
as a zero if they are not. -/
def readDigits (negative : Bool) (coefficient scale : Nat) (point some : Bool) :
    List Char → Except DecimalError Decimal
  | [] => if some then ofParts negative coefficient scale else .error .malformed
  | c :: cs =>
    match Digit.ofChar? c with
    | .some d =>
      if point && scale == 28 then roundAt negative coefficient scale d cs
      else if 10 * coefficient + d < 2 ^ 96 then
        readDigits negative (10 * coefficient + d) (if point then scale + 1 else scale) point true cs
      else if point then roundAt negative coefficient scale d cs
      else .error .tooManyDigits
    | .none =>
      if c = '.' && !point then readDigits negative coefficient scale true some cs
      else if c = '_' && some then
        if point && scale == 28 && coefficient / 10 < wideFrom then
          roundAt negative coefficient scale .zero cs
        else readDigits negative coefficient scale point some cs
      else .error .malformed

def readPlain : List Char → Except DecimalError Decimal
  | '-' :: cs => readDigits true 0 0 false false cs
  | '+' :: cs => readDigits false 0 0 false false cs
  | cs => readDigits false 0 0 false false cs

def readExponent? (cs : List Char) : Option Nat :=
  let digits := if cs.head? = some '+' then cs.tail else cs
  match Digit.span digits.length digits with
  | (d :: ds, []) => some (Digit.value (d :: ds)) |>.filter (· < 2 ^ 32)
  | _ => none

def shiftRight (d : Decimal) (places : Nat) : Except DecimalError Decimal :=
  if 28 < places then .error (.scale places)
  else if places ≤ d.scale then ofParts d.negative d.coefficient (d.scale - places)
  else ofParts d.negative (d.coefficient * 10 ^ (places - d.scale)) 0

/-- The decimal with the point moved to the left. What does not fit is rounded and keeps its sign. -/
def shiftLeft (d : Decimal) (places : Nat) : Except DecimalError Decimal :=
  if 28 < places then .error (.scale places)
  else if d.scale + places ≤ 28 then ofParts d.negative d.coefficient (d.scale + places)
  else
    let kept := d.coefficient / 10 ^ (d.scale + places - 29)
    .ok { d with
      coefficient := (kept + 5) / 10
      scale := 28
      coefficient_lt := by
        have := Nat.div_le_self d.coefficient (10 ^ (d.scale + places - 29))
        have := d.coefficient_lt
        omega
      scale_le := Nat.le_refl 28
      negative_zero := fun _ => .inr rfl }

def readScientific (cs : List Char) : Except DecimalError Decimal :=
  let isMark := fun c => c == 'e' || c == 'E'
  match cs.dropWhile (!isMark ·) with
  | [] => .error .malformed
  | _ :: exponent => do
    let d ← readPlain (cs.takeWhile (!isMark ·))
    match exponent with
    | '-' :: digits => (readExponent? digits).elim (.error .malformed) d.shiftLeft
    | digits => (readExponent? digits).elim (.error .malformed) d.shiftRight

def read (cs : List Char) : Except DecimalError Decimal :=
  match readPlain cs with
  | .ok d => .ok d
  | .error _ => readScientific cs

end Decimal

end CentralSystem
