import CentralSystem.Digit

namespace CentralSystem

structure Exponent where
  negative : Bool
  first : Digit
  rest : List Digit
deriving DecidableEq, Inhabited, Repr

def Exponent.digits (e : Exponent) : List Digit := e.first :: e.rest

/-- A number as it is spelled. The whole part has no leading zero, so its value spells it; the
fraction is kept digit by digit, and an empty one stands for no point at all. -/
structure Numeral where
  negative : Bool
  whole : Nat
  fraction : List Digit
  exponent : Option Exponent
deriving DecidableEq, Inhabited, Repr

inductive Json where
  | null
  | bool (b : Bool)
  | number (n : Numeral)
  | string (s : String)
  | array (items : List Json)
  | object (members : List (String × Json))
deriving Inhabited, BEq, Repr

namespace Numeral

def ofNat (n : Nat) : Numeral := ⟨false, n, [], none⟩

def ofInt (i : Int) : Numeral := ⟨decide (i < 0), i.natAbs, [], none⟩

/-- The natural number that is spelled in plain digits: no sign, point or exponent. -/
def nat? (n : Numeral) : Option Nat :=
  if n.negative || !n.fraction.isEmpty || n.exponent.isSome then none else some n.whole

/-- The integer that is spelled in plain digits behind an optional sign. -/
def int? (n : Numeral) : Option Int :=
  if !n.fraction.isEmpty || n.exponent.isSome then none
  else some (if n.negative then -n.whole else n.whole)

def int32? (n : Numeral) : Option Int32 :=
  (n.int?.filter fun i => -2 ^ 31 ≤ i && i < 2 ^ 31).map Int32.ofInt

def uint32? (n : Numeral) : Option UInt32 := (n.nat?.filter (· < 2 ^ 32)).map UInt32.ofNat

def chars (n : Numeral) : List Char :=
  (if n.negative then ['-'] else []) ++ Nat.toDigits 10 n.whole ++
  (if n.fraction.isEmpty then [] else '.' :: n.fraction.map Digit.char) ++
  match n.exponent with
  | none => []
  | some e => 'e' :: (if e.negative then '-' else '+') :: e.digits.map Digit.char

end Numeral

namespace Json

/-- The key that is kept for numbers: an object that begins with it is the number that it holds as a
text. -/
def numberKey : String := "$serde_json::private::Number"

def ofNat (n : Nat) : Json := .number (.ofNat n)

def ofInt (i : Int) : Json := .number (.ofInt i)

def insertMember (key : String) (value : Json) : List (String × Json) → List (String × Json)
  | [] => [(key, value)]
  | (k, v) :: rest =>
    if key < k then (key, value) :: (k, v) :: rest
    else if key = k then (key, value) :: rest
    else (k, v) :: insertMember key value rest

/-- The object of these members; of two members of one key the later is kept. -/
def ofMembers (members : List (String × Json)) : Json :=
  .object (members.foldl (fun ms m => insertMember m.1 m.2 ms) [])

def member? (j : Json) (key : String) : Option Json :=
  match j with
  | .object members => members.lookup key
  | _ => none

def isObject : Json → Bool
  | .object _ => true
  | _ => false

end Json

end CentralSystem
