import CentralSystem.Binary64
import CentralSystem.Decimal

namespace CentralSystem

namespace Exponent

def value (e : Exponent) : Int :=
  if e.negative then -Digit.value e.digits else Digit.value e.digits

def ofInt (i : Int) : Exponent :=
  let ds := Digit.ofNat i.natAbs
  ⟨decide (i < 0), ds.headD .zero, ds.tail⟩

end Exponent

namespace Numeral

def coefficient (n : Numeral) : Nat := n.whole * 10 ^ n.fraction.length + Digit.value n.fraction

def power (n : Numeral) : Int := n.exponent.elim 0 Exponent.value - n.fraction.length

/-- The exponent of the least power of ten above the number. -/
def order (n : Numeral) : Int := (Digit.ofNat n.coefficient).length + n.power

/-- The spelling of `digits * 10 ^ power` with one digit in front of the point and an exponent. -/
def scientific (negative : Bool) (digits : Nat) (power : Int) : Numeral :=
  let ds := Digit.ofNat digits
  ⟨negative, (ds.headD Digit.zero).val, ds.tail, some (.ofInt (power + ds.length - 1))⟩

/-- The spelling of `digits * 10 ^ power` without an exponent. -/
def positional (negative : Bool) (digits : Nat) (power : Int) : Numeral :=
  let places := (-power).toNat
  ⟨negative, digits * 10 ^ power.toNat / 10 ^ places, Digit.lowest places digits, none⟩

/-- The fewest digits, and their power of ten, of the binary number that this is a spelling of. -/
def binary? (n : Numeral) : Option (Nat × Int) := do
  guard (-400 < n.order && n.order < 400)
  let x ← Binary64.nearest? n.coefficient n.power
  let (digits, power) := x.shortest
  guard (n = scientific n.negative digits power || n = positional n.negative digits power)
  return (digits, power)

def isTiny (n : Numeral) : Bool := n.coefficient ≠ 0 && n.order < -27

def isHuge (n : Numeral) : Bool :=
  n.coefficient ≠ 0 && (29 < n.order ||
    n.order = 29 && 2 ^ 96 * 10 ^ (-n.power).toNat ≤ n.coefficient * 10 ^ n.power.toNat)

end Numeral

inductive NumberError where
  | wideInteger (i : Int)
  | outOfRange (binary : Numeral)
  | decimal (problem : DecimalError)
deriving DecidableEq, Repr

namespace Decimal

def isWide (i : Int) : Bool :=
  2 ^ 64 ≤ i && i < 2 ^ 128 || -2 ^ 127 ≤ i && i < -2 ^ 63

def ofNumeral (n : Numeral) : Except NumberError Decimal :=
  match n.int?.filter isWide with
  | some i => .error (.wideInteger i)
  | none =>
    match if n.isTiny || n.isHuge then n.binary? else none with
    | some (digits, power) => .error (.outOfRange (.scientific n.negative digits power))
    | none => (read n.chars).mapError .decimal

end Decimal

end CentralSystem
