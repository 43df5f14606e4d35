import CentralSystem.Digit

namespace CentralSystem

/-- The positive number `significand * 2 ^ exponent`. -/
structure Binary64 where
  significand : Nat
  exponent : Int
deriving DecidableEq, Repr

namespace Binary64

/-- The quotient to the nearest whole number, a half to the even one. -/
def divRound (num den : Nat) : Nat :=
  let q := num / den
  let twice := 2 * (num % den)
  if twice < den || (twice == den && q % 2 == 0) then q else q + 1

/-- The binary number nearest to a quotient, unless it is zero or out of range. -/
def ofRatio? (num den : Nat) : Option Binary64 :=
  let least : Int := max (-1074) (num.log2 - den.log2 - 53)
  let exponent := if num * 2 ^ (-least).toNat < 2 ^ 53 * (den * 2 ^ least.toNat) then least
    else least + 1
  let significand := divRound (num * 2 ^ (-exponent).toNat) (den * 2 ^ exponent.toNat)
  let x : Binary64 := if significand < 2 ^ 53 then ⟨significand, exponent⟩
    else ⟨2 ^ 52, exponent + 1⟩
  if x.significand = 0 ∨ 971 < x.exponent then none else some x

def nearest? (digits : Nat) (power : Int) : Option Binary64 :=
  ofRatio? (digits * 10 ^ power.toNat) (10 ^ (-power).toNat)

def num (x : Binary64) : Nat := x.significand * 2 ^ x.exponent.toNat

def den (x : Binary64) : Nat := 2 ^ (-x.exponent).toNat

def compareQuarters (x : Binary64) (digits : Nat) (power : Int) (quarters : Nat) : Ordering :=
  let e := x.exponent - 2
  compare (digits * 10 ^ power.toNat * 2 ^ (-e).toNat) (quarters * 2 ^ e.toNat * 10 ^ (-power).toNat)

/-- Whether a decimal lies among the numbers that are read as `x`: those up to halfway to its
neighbours, the ends belonging to an even significand. Below a power of two the neighbour is only
half as far away. -/
def readsBack (x : Binary64) (digits : Nat) (power : Int) : Bool :=
  let below := if x.significand = 2 ^ 52 ∧ -1074 < x.exponent then 1 else 2
  let isEven := x.significand % 2 == 0
  let low := x.compareQuarters digits power (4 * x.significand - below)
  let high := x.compareQuarters digits power (4 * x.significand + 2)
  (low == .gt || (isEven && low == .eq)) && (high == .lt || (isEven && high == .eq))

def multiple? (x : Binary64) (power : Int) : Option Nat :=
  let num := x.num * 10 ^ (-power).toNat
  let den := 10 ^ power.toNat * x.den
  let q := num / den
  match x.readsBack q power, x.readsBack (q + 1) power with
  | true, true => some (divRound num den)
  | true, false => some q
  | false, true => some (q + 1)
  | false, false => none

def above (x : Binary64) : Int := (x.significand.log2 + x.exponent + 1) * 30103 / 100000 + 2

/-- The digits and the power of ten of the shortest decimal that reads back as `x`. -/
def shortest (x : Binary64) : Nat × Int :=
  let found := (List.range 22).findSome? fun (i : Nat) =>
    let power := x.above - i
    (x.multiple? power).map (·, power)
  found.getD (x.num * 5 ^ (-x.exponent).toNat, min 0 x.exponent)

end Binary64

end CentralSystem
