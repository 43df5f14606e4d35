namespace CentralSystem

-- A power of numbers is the one of the core library, whatever else brings powers along.
attribute [instance (high), default_instance (high + 1)] instPowNat

abbrev Digit := Fin 10

namespace Digit

def zero : Digit := 0

def char (d : Digit) : Char := Nat.digitChar d

def ofChar? (c : Char) : Option Digit :=
  if h : 48 ≤ c.toNat ∧ c.toNat < 58 then some ⟨c.toNat - 48, by omega⟩ else none

theorem ofChar?_char (d : Digit) : ofChar? d.char = some d := by revert d; decide

def value (ds : List Digit) : Nat := ds.foldl (fun (n : Nat) (d : Digit) => 10 * n + d.val) 0

/-- The last `width` digits of a number. -/
def lowest : (width : Nat) → Nat → List Digit
  | 0, _ => []
  | width + 1, n => lowest width (n / 10) ++ [Fin.ofNat 10 n]

@[simp] theorem length_lowest (width n : Nat) : (lowest width n).length = width := by
  induction width generalizing n with
  | zero => rfl
  | succ width ih => simp [lowest, ih]

theorem value_append_singleton (ds : List Digit) (d : Digit) :
    value (ds ++ [d]) = 10 * value ds + d.val := by simp [value]

theorem value_lowest (width n : Nat) : value (lowest width n) = n % 10 ^ width := by
  induction width generalizing n with
  | zero => simp [lowest, value, Nat.mod_one]
  | succ width ih =>
    rw [lowest, value_append_singleton, ih]
    simp only [Fin.ofNat]
    rw [Nat.pow_succ', Nat.mod_mul]
    omega

def ofNat (n : Nat) : List Digit := lowest (Nat.toDigits 10 n).length n

/-- The digits in front, at most `most` of them, and the rest. -/
def span : (most : Nat) → List Char → List Digit × List Char
  | 0, cs => ([], cs)
  | _ + 1, [] => ([], [])
  | most + 1, c :: cs =>
    match ofChar? c with
    | some d => let (ds, rest) := span most cs; (d :: ds, rest)
    | none => ([], c :: cs)

def padded (width n : Nat) : List Char :=
  if n < 10 ^ width then (lowest width n).map char else Nat.toDigits 10 n

end Digit

end CentralSystem
