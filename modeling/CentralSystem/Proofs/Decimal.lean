import CentralSystem.Decimal.Numeral
import CentralSystem.Proofs.Digit
import CentralSystem.Proofs.Json.Token

namespace CentralSystem

namespace Digit

def extend (n : Nat) (ds : List Digit) : Nat :=
  ds.foldl (fun (n : Nat) (d : Digit) => 10 * n + d.val) n

theorem extend_eq (n : Nat) (ds : List Digit) : extend n ds = n * 10 ^ ds.length + value ds := by
  induction ds using List.reverseRecOn with
  | nil => simp [extend, value]
  | append_singleton ds d ih =>
    have hd : extend n (ds ++ [d]) = 10 * extend n ds + d.val := by simp [extend]
    rw [hd, ih, value_append_singleton, List.length_append, List.length_singleton, Nat.pow_succ,
      Nat.mul_add, Nat.mul_left_comm, Nat.mul_comm 10 (10 ^ _), Nat.add_assoc]

theorem le_extend (n : Nat) (ds : List Digit) : n ≤ extend n ds := by
  rw [extend_eq]
  have := Nat.le_mul_of_pos_right n (Nat.pow_pos (n := ds.length) (a := 10) (by decide))
  omega

theorem length_ofNat_le {n width : Nat} (hw : 0 < width) (h : n < 10 ^ width) :
    (ofNat n).length ≤ width := by
  rw [ofNat, length_lowest]
  exact (Nat.length_toDigits_le_iff (by decide) hw).2 h

theorem ofNat_ne_nil (n : Nat) : ofNat n ≠ [] := by
  intro h
  exact Nat.toDigits_ne_nil (by rw [← map_char_ofNat n, h]; rfl)

end Digit

namespace Decimal

theorem readDigits_map_char (negative point some : Bool) (ds : List Digit) (rest : List Char)
    {coefficient scale : Nat} (hfit : Digit.extend coefficient ds < 2 ^ 96)
    (hscale : point = true → scale + ds.length ≤ 28) :
    readDigits negative coefficient scale point some (ds.map Digit.char ++ rest) =
      readDigits negative (Digit.extend coefficient ds) (if point then scale + ds.length else scale)
        point (some || !ds.isEmpty) rest := by
  induction ds generalizing some coefficient scale with
  | nil => simp [Digit.extend]
  | cons d ds ih =>
    have hd : 10 * coefficient + d.val < 2 ^ 96 :=
      lt_of_le_of_lt (Digit.le_extend (10 * coefficient + d.val) ds) hfit
    have hnext : (point && scale == 28) = false := by
      cases point with
      | false => rfl
      | true =>
        have := hscale rfl
        simp only [List.length_cons] at this
        simp
        omega
    rw [List.map_cons, List.cons_append, readDigits, Digit.ofChar?_char]
    simp only [hnext, hd, Bool.false_eq_true, ↓reduceIte]
    rw [ih true hfit]
    · cases point <;> simp [Digit.extend, Nat.add_assoc, Nat.add_comm 1]
    · intro hp
      have := hscale hp
      simp only [List.length_cons] at this
      simp only [hp, ↓reduceIte]
      omega

theorem readDigits_append_fraction (negative : Bool) (whole : Nat) (fraction : List Digit)
    (hfit : Digit.extend whole fraction < 2 ^ 96) (hlength : fraction.length ≤ 28) :
    readDigits negative 0 0 false false (Nat.toDigits 10 whole ++
      if fraction.isEmpty then [] else '.' :: fraction.map Digit.char) =
      ofParts negative (Digit.extend whole fraction) fraction.length := by
  have hwhole : Digit.extend 0 (Digit.ofNat whole) = whole := Digit.value_ofNat whole
  have hsome : (!(Digit.ofNat whole).isEmpty) = true := by simp [Digit.ofNat_ne_nil]
  have hlt : Digit.extend 0 (Digit.ofNat whole) < 2 ^ 96 :=
    lt_of_le_of_lt (hwhole.trans_le (Digit.le_extend whole fraction)) hfit
  rw [← Digit.map_char_ofNat,
    readDigits_map_char negative false false (Digit.ofNat whole) _ hlt (by simp), hwhole, hsome]
  cases fraction with
  | nil => rfl
  | cons d ds =>
    have hpoint (cs : List Char) : readDigits negative whole 0 false true ('.' :: cs) =
        readDigits negative whole 0 true true cs := rfl
    have hread : readDigits negative whole 0 true true ((d :: ds).map Digit.char ++ []) = _ :=
      readDigits_map_char negative true true (d :: ds) [] hfit fun _ => by simpa using hlength
    rw [List.append_nil] at hread
    simp only [List.isEmpty_cons, Bool.false_eq_true, ↓reduceIte, Bool.or_true, hpoint]
    rw [hread]
    simp [readDigits]

theorem readPlain_char (d : Digit) (cs : List Char) :
    readPlain (d.char :: cs) = readDigits false 0 0 false false (d.char :: cs) := by
  obtain ⟨-, hminus, hplus, -⟩ := d.char_ne_mark
  unfold readPlain
  split
  · next h => exact absurd (List.cons.inj h).1 hminus
  · next h => exact absurd (List.cons.inj h).1 hplus
  · rfl

variable (d : Decimal)

theorem coefficient_toNumeral : d.toNumeral.coefficient = d.coefficient := by
  simp only [Numeral.coefficient, toNumeral, Digit.length_lowest, Digit.value_lowest]
  exact Nat.div_add_mod' d.coefficient (10 ^ d.scale)

theorem readPlain_toNumeral :
    readPlain d.toNumeral.chars = ofParts d.negative d.coefficient d.scale := by
  have hextend : Digit.extend (d.coefficient / 10 ^ d.scale) (Digit.lowest d.scale d.coefficient) =
      d.coefficient := by
    rw [Digit.extend_eq]
    exact d.coefficient_toNumeral
  have hdigits := readDigits_append_fraction d.negative (d.coefficient / 10 ^ d.scale)
    (Digit.lowest d.scale d.coefficient) (by rw [hextend]; exact d.coefficient_lt)
    (by rw [Digit.length_lowest]; exact d.scale_le)
  rw [hextend, Digit.length_lowest] at hdigits
  have htail : d.toNumeral.tail =
      if (Digit.lowest d.scale d.coefficient).isEmpty then []
      else '.' :: (Digit.lowest d.scale d.coefficient).map Digit.char := List.append_nil _
  have hsign : d.toNumeral.negative = d.negative := rfl
  have hwhole : d.toNumeral.whole = d.coefficient / 10 ^ d.scale := rfl
  rw [← hdigits, Numeral.chars_eq, htail, hsign, hwhole]
  cases hn : d.negative with
  | true => rfl
  | false =>
    obtain ⟨c, cs, hcs⟩ := List.exists_cons_of_ne_nil
      (Digit.ofNat_ne_nil (d.coefficient / 10 ^ d.scale))
    rw [← Digit.map_char_ofNat, hcs]
    exact readPlain_char c _

theorem power_toNumeral : d.toNumeral.power = -(d.scale : Int) := by
  simp [Numeral.power, toNumeral]

theorem isTiny_or_isHuge_toNumeral : (d.toNumeral.isTiny || d.toNumeral.isHuge) = false := by
  have hfit := d.coefficient_lt
  have hscale := d.scale_le
  have hpos : 0 < (Digit.ofNat d.coefficient).length :=
    List.length_pos_iff.2 (Digit.ofNat_ne_nil d.coefficient)
  have hmost : (Digit.ofNat d.coefficient).length ≤ 29 :=
    Digit.length_ofNat_le (by decide) (hfit.trans (by decide))
  have horder : d.toNumeral.order = (Digit.ofNat d.coefficient).length - (d.scale : Int) := by
    rw [Numeral.order, coefficient_toNumeral, power_toNumeral]
    rfl
  have htiny : ¬ d.toNumeral.order < -27 := by omega
  have hhuge : ¬ 29 < d.toNumeral.order := by omega
  have hlast (h : d.toNumeral.order = 29) :
      ¬ 2 ^ 96 * 10 ^ (-d.toNumeral.power).toNat ≤
        d.toNumeral.coefficient * 10 ^ d.toNumeral.power.toNat := by
    have hzero : d.scale = 0 := by omega
    rw [power_toNumeral, coefficient_toNumeral, hzero]
    simpa using hfit
  simp only [Numeral.isTiny, Numeral.isHuge, htiny, hhuge, decide_false, Bool.and_false,
    Bool.false_or, Bool.and_eq_false_imp, decide_eq_true_eq, decide_eq_false_iff_not]
  exact fun _ h => hlast h

def signed : Int := if d.negative then -(d.coefficient : Int) else d.coefficient

theorem int?_toNumeral : d.toNumeral.int? = if d.scale = 0 then some d.signed else none := by
  split
  · next h => simp [Numeral.int?, toNumeral, signed, h, Digit.lowest]
  · next h =>
    have hne : Digit.lowest d.scale d.coefficient ≠ [] :=
      List.ne_nil_of_length_pos (by rw [Digit.length_lowest]; omega)
    simp [Numeral.int?, toNumeral, hne]

/-- A decimal that is no zero with a sign, and that fits 64 bits if it has no places. -/
def Plain : Prop :=
  (d.scale = 0 → -2 ^ 63 ≤ d.signed ∧ d.signed < 2 ^ 64) ∧
    (d.negative = true → d.coefficient ≠ 0)

instance : Decidable d.Plain := inferInstanceAs (Decidable (_ ∧ _))

theorem ofParts_self : ofParts d.negative d.coefficient d.scale =
    .ok ⟨d.negative && d.coefficient != 0, d.coefficient, d.scale, d.coefficient_lt, d.scale_le,
      by simp +contextual⟩ := by
  rw [ofParts, dif_pos d.scale_le, dif_pos d.coefficient_lt]

theorem read_toNumeral : read d.toNumeral.chars = ofParts d.negative d.coefficient d.scale := by
  rw [read, readPlain_toNumeral, ofParts_self]

theorem ofParts_eq_ok_iff :
    ofParts d.negative d.coefficient d.scale = .ok d ↔ (d.negative = true → d.coefficient ≠ 0) := by
  rw [ofParts_self, Except.ok.injEq]
  obtain ⟨negative, coefficient, scale, _, _, _⟩ := d
  simp

theorem isWide_signed : isWide d.signed = true ↔ ¬ (-2 ^ 63 ≤ d.signed ∧ d.signed < 2 ^ 64) := by
  have hfit : d.signed.natAbs < 2 ^ 96 := by
    have := d.coefficient_lt
    unfold signed
    split <;> omega
  simp only [isWide, Bool.or_eq_true, Bool.and_eq_true, decide_eq_true_eq]
  omega

theorem ofNumeral_toNumeral_iff : ofNumeral d.toNumeral = .ok d ↔ d.Plain := by
  have hread : (read d.toNumeral.chars).mapError NumberError.decimal = .ok d ↔
      (d.negative = true → d.coefficient ≠ 0) := by
    rw [← d.ofParts_eq_ok_iff, read_toNumeral, ofParts_self]
    simp [Except.mapError]
  rw [ofNumeral, isTiny_or_isHuge_toNumeral, int?_toNumeral, Plain]
  by_cases hscale : d.scale = 0
  · rw [if_pos hscale]
    by_cases hwide : isWide d.signed = true
    · have hno := d.isWide_signed.1 hwide
      simp only [Option.filter_some, hwide]
      exact ⟨fun h => (nomatch h), fun h => absurd (h.1 hscale) hno⟩
    · have hyes := not_not.1 (d.isWide_signed.not.1 hwide)
      simp only [Option.filter_some, hwide]
      exact hread.trans ⟨fun h => ⟨fun _ => hyes, h⟩, And.right⟩
  · rw [if_neg hscale]
    exact hread.trans ⟨fun h => ⟨fun h0 => absurd h0 hscale, h⟩, And.right⟩

theorem toNumeral_injective : Function.Injective toNumeral := by
  intro d d' h
  have hnegative : d.negative = d'.negative := congrArg Numeral.negative h
  have hcoefficient : d.coefficient = d'.coefficient := by
    rw [← d.coefficient_toNumeral, ← d'.coefficient_toNumeral, h]
  have hscale : d.scale = d'.scale := by
    have hlength := congrArg (fun n : Numeral => n.fraction.length) h
    simpa only [toNumeral, Digit.length_lowest] using hlength
  obtain ⟨negative, coefficient, scale, _, _, _⟩ := d
  obtain rfl : negative = d'.negative := hnegative
  obtain rfl : coefficient = d'.coefficient := hcoefficient
  obtain rfl : scale = d'.scale := hscale
  rfl

end Decimal

end CentralSystem
