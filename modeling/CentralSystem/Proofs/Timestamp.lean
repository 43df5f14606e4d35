import CentralSystem.Proofs.Digit
import CentralSystem.Proofs.Json.Token
import CentralSystem.Timestamp.Reader

namespace CentralSystem

theorem Digit.isBlank_char (d : Digit) : Text.isBlank d.char = false := by revert d; decide

namespace Timestamp

variable {α β : Type} {cs cs' rest : List Char}

theorem bind_of_ok {r : Read α} {k : α → Read β} {a : α} (h : r cs = .ok (a, cs')) :
    (r >>= k) cs = k a cs' := by
  simp [bind, StateT.bind, Except.bind, h]

theorem skipBlanks_cons {c : Char} (h : Text.isBlank c = false) :
    skipBlanks (c :: cs) = .ok ((), c :: cs) := by
  simp only [skipBlanks, modify, modifyGet, MonadStateOf.modifyGet, StateT.modifyGet,
    List.dropWhile_cons, h]
  rfl

theorem readDigits_map_char {most : Nat} {ds : List Digit} (hne : ds ≠ []) (h : ds.length ≤ most)
    (hrest : ds.length = most ∨ ∀ c ∈ rest.head?, Digit.ofChar? c = none) :
    readDigits most (ds.map Digit.char ++ rest) = .ok (ds, rest) := by
  obtain ⟨d, ds, rfl⟩ := List.exists_cons_of_ne_nil hne
  simp only [readDigits, Digit.span_map_char h hrest]
  rfl

theorem get_eq : (get : Read (List Char)) cs = .ok (cs, cs) := rfl

theorem set_eq : (set cs' : Read Unit) cs = .ok ((), cs') := rfl

theorem readSeparator_cons {c : Char} (h : Text.isBlank c = false) :
    readSeparator c (c :: cs) = .ok ((), cs) := by
  rw [readSeparator, bind_of_ok (skipBlanks_cons h), bind_of_ok get_eq]
  exact congrFun (if_pos rfl) _

theorem skipBlanks_map_char {ds : List Digit} (hne : ds ≠ []) :
    skipBlanks (ds.map Digit.char ++ rest) = .ok ((), ds.map Digit.char ++ rest) := by
  obtain ⟨d, ds, rfl⟩ := List.exists_cons_of_ne_nil hne
  exact skipBlanks_cons d.isBlank_char

theorem readField_padded {least greatest n : Nat} (h : least ≤ n ∧ n ≤ greatest)
    (hg : greatest < 100) :
    readField least greatest (Digit.padded 2 n ++ rest) = .ok (n, rest) := by
  obtain ⟨ds, hds, hvalue, hne, hlength⟩ := Digit.padded_eq 2 (by decide) n
  have hl : ds.length = 2 := hlength (by omega)
  rw [hds, readField, bind_of_ok (skipBlanks_map_char hne),
    bind_of_ok (readDigits_map_char hne (by omega) (.inl hl)), hvalue, if_pos h]
  rfl

def checkYear (year : Int) : Read Int :=
  if -2 ^ 31 ≤ year ∧ year < 2 ^ 31 then return year else throw .outOfRange

theorem readYear_minus :
    readYear ('-' :: cs) =
      (readDigits cs.length >>= fun ds => checkYear (-Digit.value ds)) cs := by
  rw [readYear, bind_of_ok (skipBlanks_cons (by decide)), bind_of_ok get_eq]
  rfl

theorem readYear_plus :
    readYear ('+' :: cs) =
      (readDigits cs.length >>= fun ds => checkYear (Digit.value ds)) cs := by
  rw [readYear, bind_of_ok (skipBlanks_cons (by decide)), bind_of_ok get_eq]
  refine (congrFun (g := set cs >>= fun _ =>
    readDigits cs.length >>= fun ds => checkYear (Digit.value ds)) ?_ _).trans rfl
  split
  · next h => exact absurd (List.cons.inj h).1 (by decide)
  · next h =>
    obtain rfl := (List.cons.inj h).2
    simp only [checkYear, pure_bind]
  · next h => exact absurd rfl (h cs)

theorem readYear_char (d : Digit) :
    readYear (d.char :: cs) =
      (readDigits 4 >>= fun ds => checkYear (Digit.value ds)) (d.char :: cs) := by
  rw [readYear, bind_of_ok (skipBlanks_cons d.isBlank_char), bind_of_ok get_eq]
  obtain ⟨-, hminus, hplus, -⟩ := d.char_ne_mark
  refine congrFun ?_ _
  split
  · next h => exact absurd (List.cons.inj h).1 hminus
  · next h => exact absurd (List.cons.inj h).1 hplus
  · simp only [checkYear, pure_bind]

theorem checkYear_of_mem {year : Int} (h : Date.minYear ≤ year ∧ year ≤ Date.maxYear) :
    checkYear year cs = .ok (year, cs) := by
  have hrange : -2 ^ 31 ≤ year ∧ year < 2 ^ 31 := by
    simp only [Date.minYear, Date.maxYear] at h
    omega
  rw [checkYear, if_pos hrange]
  rfl

theorem readYear_yearChars {year : Int} (h : Date.minYear ≤ year ∧ year ≤ Date.maxYear) :
    readYear (yearChars year ++ '-' :: rest) = .ok (year, '-' :: rest) := by
  obtain ⟨ds, hds, hvalue, hne, hlength⟩ := Digit.padded_eq 4 (by decide) year.natAbs
  have hsigned : readDigits (ds.map Digit.char ++ '-' :: rest).length
      (ds.map Digit.char ++ '-' :: rest) = .ok (ds, '-' :: rest) :=
    readDigits_map_char hne (by simp) (.inr (by simp; decide))
  unfold yearChars
  split
  · next hy =>
    have hl : ds.length = 4 := hlength (by omega)
    have hread : readDigits 4 (ds.map Digit.char ++ '-' :: rest) = .ok (ds, '-' :: rest) :=
      readDigits_map_char hne (by omega) (.inl hl)
    have hyear : (Digit.value ds : Int) = year := by omega
    obtain ⟨d, ds, rfl⟩ := List.exists_cons_of_ne_nil hne
    rw [hds, List.map_cons, List.cons_append, readYear_char]
    rw [List.map_cons, List.cons_append] at hread
    rw [bind_of_ok hread, hyear]
    exact checkYear_of_mem h
  · split
    · have hyear : -(Digit.value ds : Int) = year := by omega
      rw [hds, List.cons_append, readYear_minus, bind_of_ok hsigned, hyear]
      exact checkYear_of_mem h
    · have hyear : (Digit.value ds : Int) = year := by omega
      rw [hds, List.cons_append, readYear_plus, bind_of_ok hsigned, hyear]
      exact checkYear_of_mem h

theorem readDate_chars {d : Date} (h : d.isValid = true) :
    readDate (yearChars d.year ++ '-' :: (Digit.padded 2 d.month ++
      '-' :: (Digit.padded 2 d.day ++ rest))) = .ok (d, rest) := by
  simp only [Date.isValid, Bool.and_eq_true, decide_eq_true_eq] at h
  obtain ⟨⟨⟨⟨⟨hmin, hmax⟩, hmonth⟩, hmonth'⟩, hday⟩, hday'⟩ := h
  have hmost : daysInMonth d.year d.month ≤ 31 := by
    unfold daysInMonth
    split <;> (try split) <;> decide
  rw [readDate, bind_of_ok (readYear_yearChars ⟨hmin, hmax⟩),
    bind_of_ok (readSeparator_cons (by decide)),
    bind_of_ok (readField_padded ⟨hmonth, hmonth'⟩ (by decide)),
    bind_of_ok (readSeparator_cons (by decide)),
    bind_of_ok (readField_padded ⟨hday, by omega⟩ (by decide))]
  rfl

theorem readFraction_dot {ds : List Digit} (hne : ds ≠ []) (h : ds.length ≤ 9) :
    readFraction ('.' :: (ds.map Digit.char ++ ['Z'])) =
      .ok (Digit.value ds * 10 ^ (9 - ds.length), ['Z']) := by
  rw [readFraction, bind_of_ok get_eq]
  refine (bind_of_ok set_eq).trans ?_
  rw [bind_of_ok (readDigits_map_char hne h (.inr (by simp; decide)))]
  rfl

theorem readFraction_fractionChars {nanos : Nat} (h : nanos < 1000000000) :
    readFraction (fractionChars nanos ++ ['Z']) = .ok (nanos, ['Z']) := by
  have hread (width n : Nat) (hw : 0 < width ∧ width ≤ 9) (hn : n < 10 ^ width) :
      readFraction ('.' :: Digit.padded width n ++ ['Z']) = .ok (n * 10 ^ (9 - width), ['Z']) := by
    obtain ⟨ds, hds, hvalue, hne, hlength⟩ := Digit.padded_eq width hw.1 n
    rw [hds, List.cons_append, readFraction_dot hne (by rw [hlength hn]; exact hw.2), hvalue,
      hlength hn]
  unfold fractionChars
  split
  · next hz => rw [hz]; rfl
  · split
    · next hm =>
      rw [hread 3 _ (by decide) (by omega)]
      congr 2
      omega
    · split
      · next hm =>
        rw [hread 6 _ (by decide) (by omega)]
        congr 2
        omega
      · rw [hread 9 _ (by decide) (by omega)]
        congr 2
        omega

theorem readTime_chars {t : TimeOfDay} (h : t.isValid = true) :
    readTime (Digit.padded 2 t.hour ++ ':' :: (Digit.padded 2 t.minute ++
      ':' :: (Digit.padded 2 t.second ++ (fractionChars t.nanos ++ ['Z'])))) = .ok (t, ['Z']) := by
  simp only [TimeOfDay.isValid, Bool.and_eq_true, decide_eq_true_eq] at h
  obtain ⟨⟨⟨hhour, hminute⟩, hsecond⟩, hnanos⟩ := h
  rw [readTime, bind_of_ok (readField_padded ⟨by omega, by omega⟩ (by decide)),
    bind_of_ok (readSeparator_cons (by decide)),
    bind_of_ok (readField_padded ⟨by omega, by omega⟩ (by decide)),
    bind_of_ok (readSeparator_cons (by decide)),
    bind_of_ok (readField_padded ⟨by omega, hsecond⟩ (by decide)),
    bind_of_ok (readFraction_fractionChars hnanos)]
  rfl

theorem readZone_utc : readZone ['Z'] = .ok (0, []) := by
  rw [readZone, bind_of_ok get_eq]
  rfl

theorem readLocal_chars (t : Timestamp) : readLocal t.chars = .ok ((t.date, t.time, 0), []) := by
  have hchars : t.chars = yearChars t.date.year ++ '-' :: (Digit.padded 2 t.date.month ++
      '-' :: (Digit.padded 2 t.date.day ++ 'T' :: (Digit.padded 2 t.time.hour ++
      ':' :: (Digit.padded 2 t.time.minute ++ ':' :: (Digit.padded 2 t.time.second ++
      (fractionChars t.time.nanos ++ ['Z'])))))) := by
    simp only [chars, List.append_assoc, List.cons_append]
  rw [hchars, readLocal, bind_of_ok (readDate_chars t.date_valid), bind_of_ok get_eq]
  refine (bind_of_ok set_eq).trans ?_
  refine (bind_of_ok (readTime_chars t.time_valid)).trans ?_
  rw [bind_of_ok (skipBlanks_cons (by decide)), bind_of_ok readZone_utc]
  rfl

theorem ofLocal_zero (t : Timestamp) : ofLocal t.date t.time 0 = .ok t := by
  have htime := t.time_valid
  simp only [TimeOfDay.isValid, Bool.and_eq_true, decide_eq_true_eq] at htime
  have hminutes : ((60 * (t.time.hour : Int) + t.time.minute - 0) % 1440).toNat =
      60 * t.time.hour + t.time.minute := by omega
  have hhour : (60 * t.time.hour + t.time.minute) / 60 = t.time.hour := by omega
  have hminute : (60 * t.time.hour + t.time.minute) % 60 = t.time.minute := by omega
  have hguard : ¬ (!t.date.isValid || !t.time.isValid || decide ((0 : Int).natAbs ≥ 1440)) = true := by
    simp [t.date_valid, t.time_valid]
  rw [ofLocal, if_neg hguard]
  simp only
  rw [if_neg (by omega), if_neg (by omega), hminutes, hhour, hminute, ofParts,
    dif_pos ⟨t.date_valid, t.time_valid⟩]

theorem ofString_render (t : Timestamp) : ofString t.render = .ok t := by
  rw [ofString, render, String.toList_ofList, read, readLocal_chars]
  exact ofLocal_zero t

end Timestamp

end CentralSystem
