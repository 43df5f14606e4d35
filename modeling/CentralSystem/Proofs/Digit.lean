import CentralSystem.Digit
import Mathlib.Tactic.IntervalCases

namespace CentralSystem.Digit

theorem map_char_ofNat (n : Nat) : (ofNat n).map char = Nat.toDigits 10 n := by
  induction n using Nat.strongRecOn with
  | ind n ih =>
    rcases Nat.lt_or_ge n 10 with hn | hn
    · simp [ofNat, Nat.toDigits_of_lt_base hn, lowest, char, Nat.mod_eq_of_lt hn]
    · have hdigits := Nat.toDigits_of_base_le (b := 10) (by decide) hn
      rw [ofNat, hdigits, List.length_append, List.length_singleton, lowest, List.map_append,
        ← ofNat, ih (n / 10) (by omega)]
      rfl

theorem value_ofNat (n : Nat) : value (ofNat n) = n := by
  induction n using Nat.strongRecOn with
  | ind n ih =>
    rcases Nat.lt_or_ge n 10 with hn | hn
    · simp [ofNat, Nat.toDigits_of_lt_base hn, lowest, value, Nat.mod_eq_of_lt hn]
    · have hdigits := Nat.toDigits_of_base_le (b := 10) (by decide) hn
      rw [ofNat, hdigits, List.length_append, List.length_singleton, lowest,
        value_append_singleton, ← ofNat, ih (n / 10) (by omega)]
      exact Nat.div_add_mod n 10

theorem span_map_char {most : Nat} {ds : List Digit} {rest : List Char} (h : ds.length ≤ most)
    (hrest : ds.length = most ∨ ∀ c ∈ rest.head?, ofChar? c = none) :
    span most (ds.map char ++ rest) = (ds, rest) := by
  induction ds generalizing most with
  | nil =>
    cases most with
    | zero => rfl
    | succ most =>
      cases rest with
      | nil => rfl
      | cons c rest =>
        have hc : ofChar? c = none := by simpa using hrest
        simp [span, hc]
  | cons d ds ih =>
    obtain ⟨most, rfl⟩ : ∃ k, most = k + 1 := ⟨most - 1, by simp at h; omega⟩
    have hspan : span most (ds.map char ++ rest) = (ds, rest) :=
      ih (by simpa using h) (by simpa using hrest)
    simp [span, ofChar?_char, hspan]

theorem eq_char_of_ofChar? {c : Char} {d : Digit} (h : ofChar? c = some d) : c = d.char := by
  unfold ofChar? at h
  split at h
  · next hc =>
    obtain rfl := Option.some.inj h
    obtain ⟨k, hk⟩ : ∃ k, c.toNat = 48 + k := ⟨c.toNat - 48, by omega⟩
    have hlt : k < 10 := by omega
    have hchar : c = Char.ofNat (48 + k) := by rw [← hk, Char.ofNat_toNat]
    show c = Nat.digitChar (c.toNat - 48)
    rw [hk, hchar, Nat.add_sub_cancel_left]
    interval_cases k <;> rfl
  · cases h

theorem map_char_span (most : Nat) (cs : List Char) :
    (span most cs).1.map char ++ (span most cs).2 = cs := by
  induction most generalizing cs with
  | zero => rfl
  | succ most ih =>
    cases cs with
    | nil => rfl
    | cons c cs =>
      rw [span]
      cases hc : ofChar? c with
      | none => rfl
      | some d => simp [ih, ← eq_char_of_ofChar? hc]

theorem ofChar?_of_mem_head?_span {most : Nat} {cs : List Char} (h : cs.length ≤ most) {c : Char}
    (hc : c ∈ (span most cs).2.head?) : ofChar? c = none := by
  induction most generalizing cs with
  | zero =>
    obtain rfl := List.eq_nil_of_length_eq_zero (Nat.le_zero.1 h)
    cases hc
  | succ most ih =>
    cases cs with
    | nil => cases hc
    | cons c' cs =>
      rw [span] at hc
      cases hd : ofChar? c' with
      | none =>
        rw [hd] at hc
        obtain rfl : c' = c := by simpa using hc
        exact hd
      | some d =>
        rw [hd] at hc
        exact ih (by simpa using h) hc

theorem span_length_eq_iff {cs rest : List Char} {ds : List Digit} :
    span cs.length cs = (ds, rest) ↔
      cs = ds.map char ++ rest ∧ ∀ c ∈ rest.head?, ofChar? c = none := by
  constructor
  · intro h
    have hcs := map_char_span cs.length cs
    have hrest : ∀ c ∈ (span cs.length cs).2.head?, ofChar? c = none :=
      fun _ => ofChar?_of_mem_head?_span (Nat.le_refl _)
    rw [h] at hcs hrest
    exact ⟨hcs.symm, hrest⟩
  · rintro ⟨rfl, hrest⟩
    exact span_map_char (by simp) (.inr hrest)

theorem padded_eq (width : Nat) (hw : 0 < width) (n : Nat) :
    ∃ ds, padded width n = ds.map char ∧ value ds = n ∧ ds ≠ [] ∧
      (n < 10 ^ width → ds.length = width) := by
  unfold padded
  split
  · next h =>
    refine ⟨lowest width n, rfl, by rw [value_lowest, Nat.mod_eq_of_lt h], ?_,
      fun _ => length_lowest width n⟩
    exact List.ne_nil_of_length_pos (by rwa [length_lowest])
  · next h =>
    have hn : 0 < 10 ^ width := Nat.pow_pos (by decide)
    refine ⟨ofNat n, (map_char_ofNat n).symm, value_ofNat n, fun he => ?_, fun hlt => absurd hlt h⟩
    have hz := value_ofNat n
    rw [he] at hz
    change 0 = n at hz
    omega

end CentralSystem.Digit
