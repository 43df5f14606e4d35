import CentralSystem.Ledger.Reading
import CentralSystem.Proofs.Decimal

namespace CentralSystem

namespace Reading

inductive SpellsSign : List Char → Bool → Prop
  | none : SpellsSign [] false
  | plus : SpellsSign ['+'] false
  | minus : SpellsSign ['-'] true

inductive SpellsExponent : List Char → Int → Prop
  | none : SpellsExponent [] 0
  | marked {mark sign negative ds} (hm : mark = 'e' ∨ mark = 'E') (hs : SpellsSign sign negative)
      (hd : ds ≠ []) :
      SpellsExponent (mark :: (sign ++ ds.map Digit.char)) (signed negative (Digit.value ds))

inductive SpellsNumber : List Char → Nat → Int → Prop
  | whole {ds exponent e} (hd : ds ≠ []) (he : SpellsExponent exponent e) :
      SpellsNumber (ds.map Digit.char ++ exponent) (Digit.value ds) e
  | point {ds ds' exponent e} (hd : ds ++ ds' ≠ []) (he : SpellsExponent exponent e) :
      SpellsNumber (ds.map Digit.char ++ '.' :: (ds'.map Digit.char ++ exponent))
        (Digit.value (ds ++ ds')) (e - ds'.length)

def SpellsWord (cs : List Char) (word : String) : Prop := cs.map Char.toLower = word.toList

inductive Spells : List Char → Reading → Prop
  | number {sign negative cs coefficient exponent} (hs : SpellsSign sign negative)
      (hn : SpellsNumber cs coefficient exponent) :
      Spells (sign ++ cs) (.finite negative coefficient exponent)
  | infinite {sign negative cs} (hs : SpellsSign sign negative)
      (hw : SpellsWord cs "inf" ∨ SpellsWord cs "infinity") :
      Spells (sign ++ cs) (.infinite negative)
  | notANumber {sign negative cs} (hs : SpellsSign sign negative) (hw : SpellsWord cs "nan") :
      Spells (sign ++ cs) .notANumber

theorem ofChar?_of_mark {c : Char} (h : c = 'e' ∨ c = 'E') : Digit.ofChar? c = none := by
  rcases h with rfl | rfl <;> rfl

theorem SpellsExponent.ofChar?_head {cs : List Char} {e : Int} (h : SpellsExponent cs e) :
    ∀ c ∈ cs.head?, Digit.ofChar? c = Option.none := by
  cases h with
  | none => simp
  | marked hm => simpa using ofChar?_of_mark hm

theorem SpellsExponent.ne_point {cs : List Char} {e : Int} (h : SpellsExponent cs e) :
    ∀ c ∈ cs.head?, c ≠ '.' := by
  cases h with
  | none => simp
  | marked hm => rcases hm with rfl | rfl <;> simp

/-- A text comes apart into its sign and the rest, which may begin with another sign only where one
was taken off. -/
inductive SplitsSign : List Char → Bool → List Char → Prop
  | none {rest} (h : ∀ c ∈ rest.head?, c ≠ '-' ∧ c ≠ '+') : SplitsSign rest false rest
  | plus {rest} : SplitsSign ('+' :: rest) false rest
  | minus {rest} : SplitsSign ('-' :: rest) true rest

theorem exists_splitsSign (cs : List Char) : ∃ negative rest, SplitsSign cs negative rest := by
  cases cs with
  | nil => exact ⟨_, _, .none (by simp)⟩
  | cons c cs =>
    by_cases hminus : c = '-'
    · subst hminus
      exact ⟨_, _, .minus⟩
    · by_cases hplus : c = '+'
      · subst hplus
        exact ⟨_, _, .plus⟩
      · exact ⟨_, _, .none (by simp [hminus, hplus])⟩

theorem SplitsSign.exists_sign {cs rest : List Char} {negative : Bool}
    (h : SplitsSign cs negative rest) : ∃ sign, SpellsSign sign negative ∧ cs = sign ++ rest := by
  cases h with
  | none => exact ⟨[], .none, rfl⟩
  | plus => exact ⟨['+'], .plus, rfl⟩
  | minus => exact ⟨['-'], .minus, rfl⟩

theorem SpellsSign.splits {sign rest : List Char} {negative : Bool} (h : SpellsSign sign negative)
    (hrest : ∀ c ∈ rest.head?, c ≠ '-' ∧ c ≠ '+') : SplitsSign (sign ++ rest) negative rest := by
  cases h with
  | none => exact .none hrest
  | plus => exact .plus
  | minus => exact .minus

theorem exponent?_cons {c : Char} (hc : c = 'e' ∨ c = 'E') {cs rest : List Char} {negative : Bool}
    (h : SplitsSign cs negative rest) :
    exponent? (c :: cs) = match Digit.span rest.length rest with
      | (d :: ds, []) => some (signed negative (Digit.value (d :: ds)))
      | _ => none := by
  simp only [exponent?, if_pos hc]
  cases h with
  | none h =>
    cases cs with
    | nil => rfl
    | cons x xs =>
      obtain ⟨hminus, hplus⟩ := h x rfl
      simp [hminus, hplus]
      rfl
  | plus => rfl
  | minus => rfl

theorem exponent?_eq_some_iff {cs : List Char} {e : Int} :
    exponent? cs = some e ↔ SpellsExponent cs e := by
  constructor
  · intro h
    cases cs with
    | nil =>
      obtain rfl : 0 = e := Option.some.inj h
      exact .none
    | cons c cs =>
      by_cases hc : c = 'e' ∨ c = 'E'
      · obtain ⟨negative, rest, hsplit⟩ := exists_splitsSign cs
        rw [exponent?_cons hc hsplit] at h
        split at h
        · next d ds hspan =>
          obtain ⟨sign, hs, rfl⟩ := hsplit.exists_sign
          obtain ⟨rfl, -⟩ := Digit.span_length_eq_iff.1 hspan
          obtain rfl := Option.some.inj h
          rw [List.append_nil]
          exact .marked hc hs (List.cons_ne_nil d ds)
        · cases h
      · simp [exponent?, hc] at h
  · intro h
    cases h with
    | none => rfl
    | @marked mark sign negative ds hm hs hd =>
      have hspan : Digit.span (ds.map Digit.char).length (ds.map Digit.char) = (ds, []) :=
        Digit.span_length_eq_iff.2 ⟨(List.append_nil _).symm, by simp⟩
      obtain ⟨d, rest, rfl⟩ := List.exists_cons_of_ne_nil hd
      obtain ⟨-, hminus, hplus, -⟩ := d.char_ne_mark
      have hplain : ∀ c ∈ ((d :: rest).map Digit.char).head?, c ≠ '-' ∧ c ≠ '+' := by
        simp [hminus, hplus]
      rw [exponent?_cons hm (hs.splits hplain), hspan]

theorem number?_of_point {negative : Bool} {cs rest rest' : List Char} {ds ds' : List Digit}
    (h : Digit.span cs.length cs = (ds, '.' :: rest))
    (h' : Digit.span rest.length rest = (ds', rest')) :
    number? negative cs = if ds.isEmpty && ds'.isEmpty then none else (exponent? rest').map fun e =>
      .finite negative (Digit.value (ds ++ ds')) (e - ds'.length) := by
  simp only [number?, h, h']

theorem number?_of_whole {negative : Bool} {cs rest : List Char} {ds : List Digit}
    (h : Digit.span cs.length cs = (ds, rest)) (hrest : ∀ c ∈ rest.head?, c ≠ '.') :
    number? negative cs = if ds.isEmpty then none else (exponent? rest).map fun e =>
      .finite negative (Digit.value ds) e := by
  simp only [number?, h]
  cases rest with
  | nil => simp
  | cons c rest =>
    have hc : c ≠ '.' := hrest c rfl
    simp [hc]

theorem number?_eq_some_iff {negative : Bool} {cs : List Char} {x : Reading} :
    number? negative cs = some x ↔
      ∃ coefficient e, SpellsNumber cs coefficient e ∧ x = .finite negative coefficient e := by
  constructor
  · intro h
    obtain ⟨ds, rest, hspan⟩ : ∃ ds rest, Digit.span cs.length cs = (ds, rest) := ⟨_, _, rfl⟩
    obtain ⟨hcs, -⟩ := Digit.span_length_eq_iff.1 hspan
    by_cases hpoint : ∃ rest', rest = '.' :: rest'
    · obtain ⟨rest, rfl⟩ := hpoint
      obtain ⟨ds', rest', hspan'⟩ : ∃ ds' rest', Digit.span rest.length rest = (ds', rest') :=
        ⟨_, _, rfl⟩
      obtain ⟨rfl, -⟩ := Digit.span_length_eq_iff.1 hspan'
      rw [number?_of_point hspan hspan'] at h
      split at h
      · cases h
      · next hd =>
        obtain ⟨e, he, rfl⟩ := Option.map_eq_some_iff.1 h
        have hd : ds ++ ds' ≠ [] := by
          simpa [List.isEmpty_iff] using hd
        exact ⟨_, _, hcs ▸ .point hd (exponent?_eq_some_iff.1 he), rfl⟩
    · have hrest : ∀ c ∈ rest.head?, c ≠ '.' := by
        rintro c hc rfl
        exact hpoint ⟨rest.tail, (List.cons_head?_tail hc).symm⟩
      rw [number?_of_whole hspan hrest] at h
      split at h
      · cases h
      · next hd =>
        obtain ⟨e, he, rfl⟩ := Option.map_eq_some_iff.1 h
        have hd : ds ≠ [] := by simpa using hd
        exact ⟨_, _, hcs ▸ .whole hd (exponent?_eq_some_iff.1 he), rfl⟩
  · rintro ⟨coefficient, e, hn, rfl⟩
    cases hn with
    | @whole ds exponent e hd he =>
      have hspan : Digit.span (ds.map Digit.char ++ exponent).length
          (ds.map Digit.char ++ exponent) = (ds, exponent) :=
        Digit.span_length_eq_iff.2 ⟨rfl, he.ofChar?_head⟩
      rw [number?_of_whole hspan he.ne_point, if_neg (by simpa using hd),
        exponent?_eq_some_iff.2 he]
      rfl
    | @point ds ds' exponent e hd he =>
      have hspan : Digit.span (ds.map Digit.char ++ '.' :: (ds'.map Digit.char ++ exponent)).length
          (ds.map Digit.char ++ '.' :: (ds'.map Digit.char ++ exponent)) =
            (ds, '.' :: (ds'.map Digit.char ++ exponent)) :=
        Digit.span_length_eq_iff.2 ⟨rfl, by rintro c ⟨⟩; rfl⟩
      have hspan' : Digit.span (ds'.map Digit.char ++ exponent).length
          (ds'.map Digit.char ++ exponent) = (ds', exponent) :=
        Digit.span_length_eq_iff.2 ⟨rfl, he.ofChar?_head⟩
      rw [number?_of_point hspan hspan', if_neg (by simpa using hd), exponent?_eq_some_iff.2 he]
      rfl

theorem SpellsNumber.exists_head {cs : List Char} {coefficient : Nat} {e : Int}
    (h : SpellsNumber cs coefficient e) : ∃ c rest, cs = c :: rest ∧
      (c = '.' ∨ ∃ d : Digit, c = d.char) := by
  cases h with
  | @whole ds exponent e hd he =>
    obtain ⟨d, ds, rfl⟩ := List.exists_cons_of_ne_nil hd
    exact ⟨_, _, rfl, .inr ⟨d, rfl⟩⟩
  | @point ds ds' exponent e hd he =>
    cases ds with
    | nil => exact ⟨_, _, rfl, .inl rfl⟩
    | cons d ds => exact ⟨_, _, rfl, .inr ⟨d, rfl⟩⟩

theorem SpellsNumber.ne_sign {cs : List Char} {coefficient : Nat} {e : Int}
    (h : SpellsNumber cs coefficient e) : ∀ c ∈ cs.head?, c ≠ '-' ∧ c ≠ '+' := by
  obtain ⟨c, rest, rfl, hc⟩ := h.exists_head
  intro c' hc'
  obtain rfl : c = c' := Option.some.inj hc'
  rcases hc with rfl | ⟨d, rfl⟩
  · decide
  · obtain ⟨-, hminus, hplus, -⟩ := d.char_ne_mark
    exact ⟨hminus, hplus⟩

def words : List String := ["inf", "infinity", "nan"]

theorem SpellsWord.eq {cs : List Char} {word word' : String} (h : SpellsWord cs word)
    (h' : SpellsWord cs word') : word = word' := String.toList_inj.1 (h.symm.trans h')

theorem SpellsWord.exists_head {cs : List Char} {word : String} (h : SpellsWord cs word)
    (hw : word ∈ words) : ∃ c rest, cs = c :: rest ∧ (c.toLower = 'i' ∨ c.toLower = 'n') := by
  have hhead : ∀ w ∈ words, w.toList.head? = some 'i' ∨ w.toList.head? = some 'n' := by decide
  have hcs := hhead word hw
  rw [← h] at hcs
  cases cs with
  | nil => simp at hcs
  | cons c rest => exact ⟨c, rest, rfl, by simpa using hcs⟩

theorem SpellsNumber.not_spellsWord {cs : List Char} {coefficient : Nat} {e : Int}
    (h : SpellsNumber cs coefficient e) {word : String} (hw : word ∈ words) :
    ¬SpellsWord cs word := by
  intro hs
  obtain ⟨c, rest, rfl, hc⟩ := h.exists_head
  obtain ⟨c', rest', heq, hc'⟩ := hs.exists_head hw
  obtain rfl := (List.cons.inj heq).1
  have hdigit : ∀ d : Digit, ¬(d.char.toLower = 'i' ∨ d.char.toLower = 'n') := by decide
  rcases hc with rfl | ⟨d, rfl⟩
  · revert hc'
    decide
  · exact hdigit d hc'

theorem unsigned?_eq_some_iff {negative : Bool} {cs : List Char} {x : Reading} :
    unsigned? negative cs = some x ↔
      (SpellsWord cs "inf" ∨ SpellsWord cs "infinity") ∧ x = .infinite negative ∨
      SpellsWord cs "nan" ∧ x = .notANumber ∨
      ∃ coefficient e, SpellsNumber cs coefficient e ∧ x = .finite negative coefficient e := by
  have hword {word : String} (h : String.ofList (cs.map Char.toLower) = word) :
      SpellsWord cs word := by
    rw [SpellsWord, ← h, String.toList_ofList]
  have hnumber {word : String} (hw : word ∈ words) (hs : SpellsWord cs word) :
      ¬∃ coefficient e, SpellsNumber cs coefficient e ∧ x = .finite negative coefficient e :=
    fun ⟨_, _, hn, _⟩ => hn.not_spellsWord hw hs
  have hother {word word' : String} (hs : SpellsWord cs word) (hne : word ≠ word') :
      ¬SpellsWord cs word' := fun hs' => hne (hs.eq hs')
  unfold unsigned?
  split
  · next h =>
    have hs := hword h
    have hnan : ¬SpellsWord cs "nan" := hother hs (by decide)
    simp [hs, hnan, hnumber (by decide) hs, eq_comm]
  · next h =>
    have hs := hword h
    have hnan : ¬SpellsWord cs "nan" := hother hs (by decide)
    simp [hs, hnan, hnumber (by decide) hs, eq_comm]
  · next h =>
    have hs := hword h
    have hinf : ¬SpellsWord cs "inf" := hother hs (by decide)
    have hinfinity : ¬SpellsWord cs "infinity" := hother hs (by decide)
    simp [hs, hinf, hinfinity, hnumber (by decide) hs, eq_comm]
  · next h₁ h₂ h₃ =>
    have hno {word : String} (h : String.ofList (cs.map Char.toLower) ≠ word) :
        ¬SpellsWord cs word := by
      intro hs
      rw [SpellsWord] at hs
      rw [hs, String.ofList_toList] at h
      exact h rfl
    simp only [hno h₁, hno h₂, hno h₃, or_self, false_and, false_or]
    exact number?_eq_some_iff

theorem parse?_of_splitsSign {cs rest : List Char} {negative : Bool}
    (h : SplitsSign cs negative rest) : parse? cs = unsigned? negative rest := by
  cases h with
  | none h =>
    unfold parse?
    split
    · exact absurd rfl (h '-' rfl).1
    · exact absurd rfl (h '+' rfl).2
    · rfl
  | plus => rfl
  | minus => rfl

/-- A text is read just as it is spelled. -/
theorem parse?_eq_some_iff {cs : List Char} {x : Reading} :
    parse? cs = some x ↔ Spells cs x := by
  constructor
  · intro h
    obtain ⟨negative, rest, hsplit⟩ := exists_splitsSign cs
    obtain ⟨sign, hs, rfl⟩ := hsplit.exists_sign
    rw [parse?_of_splitsSign hsplit, unsigned?_eq_some_iff] at h
    rcases h with ⟨hw, rfl⟩ | ⟨hw, rfl⟩ | ⟨coefficient, e, hn, rfl⟩
    · exact .infinite hs hw
    · exact .notANumber hs hw
    · exact .number hs hn
  · intro h
    have hword {cs : List Char} {word : String} (hw : word ∈ words) (hs : SpellsWord cs word) :
        ∀ c ∈ cs.head?, c ≠ '-' ∧ c ≠ '+' := by
      obtain ⟨c, rest, rfl, hc⟩ := hs.exists_head hw
      rintro c' ⟨⟩
      constructor <;> rintro rfl <;> revert hc <;> decide
    cases h with
    | number hs hn =>
      rw [parse?_of_splitsSign (hs.splits hn.ne_sign)]
      exact unsigned?_eq_some_iff.2 (.inr (.inr ⟨_, _, hn, rfl⟩))
    | infinite hs hw =>
      rw [parse?_of_splitsSign (hs.splits (hw.elim (hword (by decide)) (hword (by decide))))]
      exact unsigned?_eq_some_iff.2 (.inl ⟨hw, rfl⟩)
    | notANumber hs hw =>
      rw [parse?_of_splitsSign (hs.splits (hword (by decide) hw))]
      exact unsigned?_eq_some_iff.2 (.inr (.inl ⟨hw, rfl⟩))

def isFinite : Reading → Bool
  | finite .. => true
  | _ => false

end Reading

namespace SampledValue

/-- A sampled value tells the energy register in a context, and this is what it reads. -/
structure Tells (context : ReadingContext) (s : SampledValue) (x : Reading) : Prop where
  context : s.context = some context
  measurand : s.measurand = none ∨ s.measurand = some .energyActiveImportRegister
  spells : Reading.Spells s.value.toList x

def inWattHours (s : SampledValue) (x : Reading) : Int32 := x.toInt32 (s.unit == some .kiloWattHour)

theorem inWattHours_infinite (s : SampledValue) (negative : Bool) :
    s.inWattHours (.infinite negative) =
      if negative then Int32.minValue else Int32.maxValue := by
  cases negative <;> rfl

theorem inWattHours_notANumber (s : SampledValue) : s.inWattHours .notANumber = 0 := rfl

def reading? (context : ReadingContext) (s : SampledValue) : Option Reading :=
  if s.context == some context && s.isEnergy then Reading.parse? s.value.toList else none

theorem reading?_eq_some_iff {context : ReadingContext} {s : SampledValue} {x : Reading} :
    s.reading? context = some x ↔ s.Tells context x := by
  have henergy : s.isEnergy = true ↔
      s.measurand = none ∨ s.measurand = some .energyActiveImportRegister := by
    unfold isEnergy
    cases s.measurand <;> simp
  simp only [reading?, Option.ite_none_right_eq_some, Bool.and_eq_true, beq_iff_eq, henergy,
    Reading.parse?_eq_some_iff]
  exact ⟨fun ⟨⟨hc, hm⟩, hs⟩ => ⟨hc, hm, hs⟩, fun ⟨hc, hm, hs⟩ => ⟨⟨hc, hm⟩, hs⟩⟩

theorem reading?_eq_none_iff {context : ReadingContext} {s : SampledValue} :
    s.reading? context = none ↔ ∀ x, ¬s.Tells context x := by
  simp only [Option.eq_none_iff_forall_ne_some, ne_eq, reading?_eq_some_iff]

def isReadable (s : SampledValue) : Bool := (Reading.parse? s.value.toList).isSome

def isNumber (s : SampledValue) : Bool := (Reading.parse? s.value.toList).any (·.isFinite)

theorem isReadable_iff {s : SampledValue} :
    s.isReadable = true ↔ ∃ x, Reading.Spells s.value.toList x := by
  simp only [isReadable, Option.isSome_iff_exists, Reading.parse?_eq_some_iff]

end SampledValue

namespace MeterValue

/-- The sampled values in order, each with the time of the meter value that has it. -/
def values (data : List MeterValue) : List (Timestamp × SampledValue) :=
  data.flatMap fun m => m.sampledValue.map (m.timestamp, ·)

inductive LastTells (context : ReadingContext) (data : List MeterValue) :
    Timestamp → SampledValue → Reading → Prop
  | intro {before time s x later} (hv : values data = before ++ (time, s) :: later)
      (ht : s.Tells context x) (hlater : ∀ e ∈ later, ∀ y, ¬e.2.Tells context y) :
      LastTells context data time s x

theorem readings_eq (context : ReadingContext) (data : List MeterValue) :
    readings context data = (values data).filterMap fun e =>
      (e.2.reading? context).map fun x => (e.2.inWattHours x, e.1) := by
  simp only [readings, values, List.filterMap_flatMap, List.filterMap_filter, List.filterMap_map]
  congr 1
  funext m
  congr 1
  funext s
  simp only [Function.comp_apply, SampledValue.reading?, SampledValue.wattHours?,
    SampledValue.inWattHours]
  cases s.context == some context <;> cases s.isEnergy <;> simp [Function.comp_def]

theorem lastReading?_eq_some_iff {context : ReadingContext} {data : List MeterValue}
    {v : Int32 × Timestamp} : lastReading? context data = some v ↔
      ∃ time s x, LastTells context data time s x ∧ v = (s.inWattHours x, time) := by
  rw [lastReading?, readings_eq, List.getLast?_filterMap, List.findSome?_eq_some_iff]
  constructor
  · rintro ⟨later, ⟨time, s⟩, before, hv, hread, hlater⟩
    obtain ⟨x, hx, rfl⟩ := Option.map_eq_some_iff.1 hread
    have hvalues : values data = before.reverse ++ (time, s) :: later.reverse := by
      simpa using List.reverse_eq_append_iff.1 hv
    refine ⟨time, s, x, .intro hvalues (SampledValue.reading?_eq_some_iff.1 hx) fun e he => ?_, rfl⟩
    exact SampledValue.reading?_eq_none_iff.1
      (Option.map_eq_none_iff.1 (hlater e (List.mem_reverse.1 he)))
  · rintro ⟨time, s, x, ⟨hv, ht, hlater⟩, rfl⟩
    rename_i before later
    refine ⟨later.reverse, (time, s), before.reverse, by simp [hv], ?_, fun e he => ?_⟩
    · rw [SampledValue.reading?_eq_some_iff.2 ht]
      rfl
    · rw [SampledValue.reading?_eq_none_iff.2 (hlater e (List.mem_reverse.1 he))]
      rfl

theorem lastReading?_eq_none_iff {context : ReadingContext} {data : List MeterValue} :
    lastReading? context data = none ↔ ∀ e ∈ values data, ∀ x, ¬e.2.Tells context x := by
  rw [lastReading?, readings_eq, List.getLast?_eq_none_iff, List.filterMap_eq_nil_iff]
  simp only [Option.map_eq_none_iff, SampledValue.reading?_eq_none_iff]

def keep (P : SampledValue → Bool) (m : MeterValue) : MeterValue :=
  { m with sampledValue := m.sampledValue.filter P }

theorem values_map_keep (P : SampledValue → Bool) (data : List MeterValue) :
    values (data.map (keep P)) = (values data).filter (P ·.2) := by
  simp only [values, keep, List.flatMap_map, List.filter_flatMap, List.filter_map]
  rfl

/-- Values that are taken away make no difference, as long as the last one that counts stays. -/
theorem lastReading?_map_keep {P : SampledValue → Bool} {context : ReadingContext}
    {data : List MeterValue} (h : ∀ time s x, LastTells context data time s x → P s = true) :
    lastReading? context (data.map (keep P)) = lastReading? context data := by
  cases hl : lastReading? context data with
  | none =>
    rw [lastReading?_eq_none_iff] at hl ⊢
    intro e he
    rw [values_map_keep] at he
    exact hl e (List.mem_filter.1 he).1
  | some v =>
    obtain ⟨time, s, x, hlast, rfl⟩ := lastReading?_eq_some_iff.1 hl
    refine lastReading?_eq_some_iff.2 ⟨time, s, x, ?_, rfl⟩
    have hs := h time s x hlast
    obtain ⟨hv, ht, hlater⟩ := hlast
    have hkept := values_map_keep P data
    rw [hv, List.filter_append, List.filter_cons_of_pos (a := (time, s)) hs] at hkept
    exact .intro hkept ht fun e he => hlater e (List.mem_filter.1 he).1

end MeterValue

end CentralSystem
