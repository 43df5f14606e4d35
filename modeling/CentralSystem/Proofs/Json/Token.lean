import CentralSystem.Json.Token
import Mathlib.Data.List.Chain
import Mathlib.Tactic.IntervalCases

namespace CentralSystem

theorem Digit.char_ne_mark (d : Digit) :
    d.char ≠ '.' ∧ d.char ≠ '-' ∧ d.char ≠ '+' ∧
      Json.NumberScan.isExponentMark d.char = false := by
  revert d
  decide

namespace Numeral

def tail (n : Numeral) : List Char :=
  (if n.fraction.isEmpty then [] else '.' :: n.fraction.map Digit.char) ++
  match n.exponent with
  | none => []
  | some e => 'e' :: (if e.negative then '-' else '+') :: e.digits.map Digit.char

theorem chars_eq (n : Numeral) :
    n.chars = (if n.negative then ['-'] else []) ++ (Nat.toDigits 10 n.whole ++ n.tail) :=
  (List.append_assoc ..).trans (List.append_assoc ..)

end Numeral

namespace Json

namespace NumberScan

def feedAll? (s : NumberScan) (cs : List Char) : Option NumberScan :=
  cs.foldlM (fun s c => s.feed? c) s

@[simp] theorem feedAll?_nil (s : NumberScan) : s.feedAll? [] = some s := rfl

@[simp] theorem feedAll?_cons (s : NumberScan) (c : Char) (cs : List Char) :
    s.feedAll? (c :: cs) = (s.feed? c).bind (·.feedAll? cs) := by
  rw [feedAll?, List.foldlM_cons]
  rfl

theorem feedAll?_append (s : NumberScan) (cs cs' : List Char) :
    s.feedAll? (cs ++ cs') = (s.feedAll? cs).bind (·.feedAll? cs') := by
  rw [feedAll?, List.foldlM_append]
  rfl

theorem feed?_whole (negative : Bool) {n : Nat} (hn : n ≠ 0) (d : Digit) :
    (whole negative n).feed? d.char = some (whole negative (10 * n + d)) := by
  obtain ⟨hpoint, -, -, hmark⟩ := d.char_ne_mark
  simp [feed?, hpoint, hmark, hn, Digit.ofChar?_char]

theorem feedAll?_fraction (negative : Bool) (n : Nat) (ds rest : List Digit) :
    (fraction negative n ds).feedAll? (rest.map Digit.char) =
      some (fraction negative n (ds ++ rest)) := by
  induction rest generalizing ds with
  | nil => simp
  | cons d rest ih =>
    obtain ⟨-, -, -, hmark⟩ := d.char_ne_mark
    simp [feed?, hmark, Digit.ofChar?_char, ih]

theorem feedAll?_exponent (negative : Bool) (n : Nat) (ds : List Digit) (e : Exponent)
    (rest : List Digit) :
    (exponent negative n ds e).feedAll? (rest.map Digit.char) =
      some (exponent negative n ds { e with rest := e.rest ++ rest }) := by
  induction rest generalizing e with
  | nil => simp
  | cons d rest ih => simp [feed?, Digit.ofChar?_char, ih]

theorem feedAll?_toDigits (negative : Bool) (n : Nat) :
    ∃ d cs, Nat.toDigits 10 n = Digit.char d :: cs ∧
      (whole negative d).feedAll? cs = some (whole negative n) := by
  induction n using Nat.strongRecOn with
  | ind n ih =>
    rcases Nat.lt_or_ge n 10 with hn | hn
    · exact ⟨⟨n, hn⟩, [], Nat.toDigits_of_lt_base hn, rfl⟩
    · obtain ⟨d, cs, hcs, hread⟩ := ih (n / 10) (by omega)
      have hlast : n % 10 < 10 := Nat.mod_lt _ (by decide)
      refine ⟨d, cs ++ [Digit.char ⟨n % 10, hlast⟩], ?_, ?_⟩
      · rw [Nat.toDigits_of_base_le (by decide) hn, hcs]
        rfl
      · rw [feedAll?_append, hread, Option.bind_some, feedAll?_cons,
          feed?_whole negative (by omega), Option.bind_some, feedAll?_nil]
        congr 2
        exact Nat.div_add_mod n 10

theorem feedAll?_tail (n : Numeral) :
    ∃ s, (whole n.negative n.whole).feedAll? n.tail = some s ∧ s.finish? = some n := by
  obtain ⟨negative, w, fraction, e?⟩ := n
  have hsign (s : Bool) (ds : List Digit) :
      (mark negative w ds).feed? (if s then '-' else '+') = some (markSign negative w ds s) := by
    cases s <;> rfl
  have hfirst (ds : List Digit) (s : Bool) (d : Digit) :
      (markSign negative w ds s).feed? d.char = some (exponent negative w ds ⟨s, d, []⟩) := by
    simp [feed?, Digit.ofChar?_char]
  cases fraction with
  | nil =>
    have hmark : (whole negative w).feed? 'e' = some (mark negative w []) := rfl
    cases e? with
    | none => exact ⟨_, rfl, rfl⟩
    | some e =>
      refine ⟨.exponent negative w [] e, ?_, rfl⟩
      simp [Numeral.tail, hmark, hsign, hfirst, Exponent.digits, feedAll?_exponent]
  | cons d ds =>
    have hpoint : (whole negative w).feed? '.' = some (point negative w) := rfl
    have hplace : (point negative w).feed? d.char = some (NumberScan.fraction negative w [d]) := by
      simp [feed?, Digit.ofChar?_char]
    have hmark (ds : List Digit) : (NumberScan.fraction negative w ds).feed? 'e' =
        some (mark negative w ds) := rfl
    cases e? with
    | none =>
      refine ⟨.fraction negative w (d :: ds), ?_, rfl⟩
      simp [Numeral.tail, hpoint, hplace, feedAll?_fraction]
    | some e =>
      refine ⟨.exponent negative w (d :: ds) e, ?_, rfl⟩
      simp [Numeral.tail, hpoint, hplace, feedAll?_append, feedAll?_fraction, hmark, hsign, hfirst,
        Exponent.digits, feedAll?_exponent]

/-- A character at which every complete number ends. -/
def isStop (c : Char) : Bool :=
  (Digit.ofChar? c).isNone && c != '.' && !isExponentMark c

theorem feed?_of_isStop {s : NumberScan} {n : Numeral} (hs : s.finish? = some n) {c : Char}
    (hc : isStop c = true) : s.feed? c = none := by
  simp only [isStop, Bool.and_eq_true, Option.isNone_iff_eq_none, bne_iff_ne, ne_eq,
    Bool.not_eq_eq_eq_not, Bool.not_true] at hc
  obtain ⟨⟨hdigit, hpoint⟩, hmark⟩ := hc
  cases s <;> simp_all [finish?, feed?]

end NumberScan

namespace Token

def isNumber : Token → Bool
  | .number _ => true
  | _ => false

/-- Tokens that can be told apart where one is written behind the other. -/
abbrev Parted (t u : Token) : Prop := t.isNumber = true → u.isNumber = false

end Token

namespace Lexer

def feedAll? (l : Lexer) (cs : List Char) : Option Lexer := cs.foldlM feed? l

@[simp] theorem feedAll?_nil (l : Lexer) : l.feedAll? [] = some l := rfl

@[simp] theorem feedAll?_cons (l : Lexer) (c : Char) (cs : List Char) :
    l.feedAll? (c :: cs) = (l.feed? c).bind (·.feedAll? cs) := by
  rw [feedAll?, List.foldlM_cons]
  rfl

theorem feedAll?_append (l : Lexer) (cs cs' : List Char) :
    l.feedAll? (cs ++ cs') = (l.feedAll? cs).bind (·.feedAll? cs') := by
  rw [feedAll?, List.foldlM_append]
  rfl

/-- These tokens have been read, the last one first. That a number is over shows only at the next
character. -/
inductive Reads : Lexer → List Token → Prop
  | between (ts : List Token) : Reads ⟨ts, .between⟩ ts
  | number {s : NumberScan} {n : Numeral} (ts : List Token) (h : s.finish? = some n) :
      Reads ⟨ts, .number s⟩ (.number n :: ts)

theorem Reads.finish?_eq {l : Lexer} {ts : List Token} (h : l.Reads ts) :
    l.finish? = some ts.reverse := by
  cases h with
  | between => rfl
  | number _ hs => simp [finish?, hs]

/-- The next token begins, unless it could be taken for more of a number. -/
theorem Reads.feed?_eq {l : Lexer} {ts : List Token} (h : l.Reads ts) {c : Char}
    (hc : NumberScan.isStop c = true ∨ ∀ t ∈ ts.head?, t.isNumber = false) :
    l.feed? c = begin? ts c := by
  cases h with
  | between => rfl
  | number ts hs =>
    have hstop : NumberScan.isStop c = true := by
      rcases hc with hc | hno
      · exact hc
      · exact absurd (hno _ rfl) (by simp [Token.isNumber])
    simp [feed?, NumberScan.feed?_of_isStop hs hstop, hs]

theorem feedAll?_number (done : List Token) {s s' : NumberScan} {cs : List Char}
    (h : s.feedAll? cs = some s') :
    feedAll? ⟨done, .number s⟩ cs = some ⟨done, .number s'⟩ := by
  induction cs generalizing s with
  | nil =>
    obtain rfl := Option.some.inj h
    rfl
  | cons c rest ih =>
    rw [NumberScan.feedAll?_cons] at h
    obtain ⟨m, hm, hrest⟩ := Option.bind_eq_some_iff.1 h
    rw [feedAll?_cons]
    simp [feed?, hm, ih hrest]

theorem begin?_char (done : List Token) (d : Digit) :
    begin? done d.char = some ⟨done, .number (.whole false d)⟩ := by
  obtain ⟨n, hn⟩ := d
  interval_cases n <;> rfl

theorem feed?_minus_char (done : List Token) (d : Digit) :
    feed? ⟨done, .number .minus⟩ d.char = some ⟨done, .number (.whole true d)⟩ := by
  simp [feed?, NumberScan.feed?, Digit.ofChar?_char]

theorem feedAll?_numeral {l : Lexer} {ts : List Token} (h : l.Reads ts)
    (hts : ∀ t ∈ ts.head?, t.isNumber = false) (n : Numeral) :
    ∃ l', l.feedAll? n.chars = some l' ∧ l'.Reads (.number n :: ts) := by
  obtain ⟨d, cs, hcs, hwhole⟩ := NumberScan.feedAll?_toDigits n.negative n.whole
  obtain ⟨s, htail, hfinish⟩ := NumberScan.feedAll?_tail n
  refine ⟨⟨ts, .number s⟩, ?_, .number ts hfinish⟩
  have hrest : feedAll? ⟨ts, .number (.whole n.negative d)⟩ (cs ++ n.tail) =
      some ⟨ts, .number s⟩ := by
    apply feedAll?_number
    rw [NumberScan.feedAll?_append, hwhole, Option.bind_some, htail]
  rw [Numeral.chars_eq, hcs, List.cons_append]
  cases hneg : n.negative with
  | false =>
    rw [hneg] at hrest
    simpa [h.feed?_eq (.inr hts), begin?_char] using hrest
  | true =>
    rw [hneg] at hrest
    have hminus : begin? ts '-' = some ⟨ts, .number .minus⟩ := rfl
    simpa [h.feed?_eq (.inr hts), hminus, feed?_minus_char] using hrest

theorem hexDigit?_hexChar {n : Nat} (h : n < 16) : hexDigit? (hexChar n) = some n := by
  revert n
  decide

section Escapes

variable (done : List Token) (cs : List Char)

theorem feedAll?_letter {c e : Char} (h : unescape? e = some c) :
    feedAll? ⟨done, .string none cs⟩ ['\\', e] = some ⟨done, .string none (c :: cs)⟩ := by
  have hescape : feed? ⟨done, .string none cs⟩ '\\' = some ⟨done, .escape none cs⟩ := rfl
  have hu : e ≠ 'u' := by
    rintro rfl
    cases h
  have hletter : feed? ⟨done, .escape none cs⟩ e = some ⟨done, .string none (c :: cs)⟩ := by
    simp only [feed?, if_neg hu, h, Option.isSome_none, Bool.false_eq_true, ↓reduceIte,
      Option.map_some]
  rw [feedAll?_cons, hescape, Option.bind_some, feedAll?_cons, hletter, Option.bind_some,
    feedAll?_nil]

theorem feed?_hexDigit {c : Char} {d : Nat} (h : hexDigit? c = some d) (value left : Nat) :
    feed? ⟨done, .unit none cs value (left + 2)⟩ c =
      some ⟨done, .unit none cs (16 * value + d) (left + 1)⟩ := by
  have hleft : left + 2 ≠ 1 := by omega
  simp only [feed?, h, Option.bind_some, if_neg hleft]
  rfl

theorem feedAll?_unit {n : Nat} (hn : n < 32) :
    feedAll? ⟨done, .string none cs⟩
        ['\\', 'u', '0', '0', hexChar (n / 16), hexChar (n % 16)] =
      some ⟨done, .string none (Char.ofNat n :: cs)⟩ := by
  have hopen : feedAll? ⟨done, .string none cs⟩ ['\\', 'u'] = some ⟨done, .unit none cs 0 4⟩ := rfl
  have hzero : hexDigit? '0' = some 0 := rfl
  have hhigh := feed?_hexDigit done cs (hexDigit?_hexChar (n := n / 16) (by omega)) 0 0
  have hvalue : 16 * (16 * 0 + n / 16) + n % 16 = n := by omega
  have hjoin : joinUnit? none cs n = some (.string none (Char.ofNat n :: cs)) := by
    have hno : isHighSurrogate n = false ∧ isLowSurrogate n = false := by
      simp only [isHighSurrogate, isLowSurrogate, Bool.and_eq_false_iff, decide_eq_false_iff_not]
      omega
    simp only [joinUnit?, hno, Bool.false_eq_true, ↓reduceIte]
  have hlow : feed? ⟨done, .unit none cs (16 * 0 + n / 16) 1⟩ (hexChar (n % 16)) =
      some ⟨done, .string none (Char.ofNat n :: cs)⟩ := by
    simp only [feed?, hexDigit?_hexChar (Nat.mod_lt n (by decide : 0 < 16)), Option.bind_some,
      ↓reduceIte, hvalue, hjoin, Option.map_some]
  show feedAll? _ (['\\', 'u'] ++ _) = _
  rw [feedAll?_append, hopen, Option.bind_some, feedAll?_cons, feed?_hexDigit done cs hzero 0 2,
    Option.bind_some, feedAll?_cons, feed?_hexDigit done cs hzero _ 1, Option.bind_some,
    feedAll?_cons, hhigh, Option.bind_some, feedAll?_cons, hlow, Option.bind_some, feedAll?_nil]

theorem feedAll?_escapeChar (c : Char) :
    feedAll? ⟨done, .string none cs⟩ (escapeChar c) = some ⟨done, .string none (c :: cs)⟩ := by
  have hletter {d e : Char} (hd : c = d) (he : unescape? e = some d) :
      feedAll? ⟨done, .string none cs⟩ ['\\', e] = some ⟨done, .string none (c :: cs)⟩ :=
    hd ▸ feedAll?_letter done cs he
  unfold escapeChar
  split_ifs with hquote hslash hback hform hline hreturn htab hcontrol
  · exact hletter hquote rfl
  · exact hletter hslash rfl
  · exact hletter hback rfl
  · exact hletter hform rfl
  · exact hletter hline rfl
  · exact hletter hreturn rfl
  · exact hletter htab rfl
  · rw [feedAll?_unit done cs hcontrol, Char.ofNat_toNat]
  · have hplain : feed? ⟨done, .string none cs⟩ c = some ⟨done, .string none (c :: cs)⟩ := by
      simp only [feed?, if_neg hslash, if_neg hquote, if_neg hcontrol, Option.isSome_none,
        Bool.false_eq_true, ↓reduceIte]
    rw [feedAll?_cons, hplain, Option.bind_some, feedAll?_nil]

end Escapes

theorem feedAll?_escaped (done : List Token) (cs s : List Char) :
    feedAll? ⟨done, .string none cs⟩ (s.flatMap escapeChar) =
      some ⟨done, .string none (s.reverse ++ cs)⟩ := by
  induction s generalizing cs with
  | nil => rfl
  | cons c rest ih =>
    rw [List.flatMap_cons, feedAll?_append, feedAll?_escapeChar, Option.bind_some, ih]
    simp

theorem feedAll?_chars {l : Lexer} {ts : List Token} (h : l.Reads ts) (t : Token)
    (ht : ∀ u ∈ ts.head?, u.Parted t) :
    ∃ l', l.feedAll? t.chars = some l' ∧ l'.Reads (t :: ts) := by
  have hstop {c : Char} (hc : NumberScan.isStop c = true) : l.feed? c = begin? ts c :=
    h.feed?_eq (.inl hc)
  have hmark {u : Token} {c : Char} (hc : NumberScan.isStop c = true)
      (hu : begin? ts c = some ⟨u :: ts, .between⟩) :
      ∃ l', l.feedAll? [c] = some l' ∧ l'.Reads (u :: ts) :=
    ⟨_, by rw [feedAll?_cons, hstop hc, hu]; rfl, .between _⟩
  cases t with
  | number n =>
    refine feedAll?_numeral h (fun u hu => ?_) n
    by_contra hnum
    exact absurd (ht u hu (by simpa using hnum)) (by simp [Token.isNumber])
  | string s =>
    refine ⟨⟨.string s :: ts, .between⟩, ?_, .between _⟩
    have hbegin : begin? ts '"' = some ⟨ts, .string none []⟩ := rfl
    rw [Token.chars, feedAll?_cons, hstop (by decide), hbegin, Option.bind_some, feedAll?_append,
      feedAll?_escaped, Option.bind_some]
    simp [feed?]
  | null => exact ⟨_, by rw [Token.chars, feedAll?_cons, hstop (by decide)]; rfl, .between _⟩
  | bool b =>
    cases b
    · exact ⟨_, by rw [Token.chars, feedAll?_cons, hstop (by decide)]; rfl, .between _⟩
    · exact ⟨_, by rw [Token.chars, feedAll?_cons, hstop (by decide)]; rfl, .between _⟩
  | openArray => exact hmark (by decide) rfl
  | closeArray => exact hmark (by decide) rfl
  | openObject => exact hmark (by decide) rfl
  | closeObject => exact hmark (by decide) rfl
  | comma => exact hmark (by decide) rfl
  | colon => exact hmark (by decide) rfl

theorem feedAll?_flatMap_chars (ts : List Token) {l : Lexer} {done : List Token}
    (h : l.Reads done) (hts : ts.IsChain Token.Parted)
    (hd : ∀ u ∈ done.head?, ∀ t ∈ ts.head?, u.Parted t) :
    ∃ l', l.feedAll? (ts.flatMap Token.chars) = some l' ∧ l'.Reads (ts.reverse ++ done) := by
  induction ts generalizing l done with
  | nil => exact ⟨l, rfl, h⟩
  | cons t rest ih =>
    obtain ⟨hhead, hrest⟩ := List.isChain_cons.1 hts
    obtain ⟨m, hm, hreads⟩ := feedAll?_chars h t fun u hu => hd u hu t rfl
    obtain ⟨l', hl', hlast⟩ := ih hreads hrest fun u hu t' ht' => by
      obtain rfl := Option.some.inj hu
      exact hhead t' ht'
    refine ⟨l', ?_, by simpa using hlast⟩
    rw [List.flatMap_cons, feedAll?_append, hm, Option.bind_some, hl']

end Lexer

/-- Tokens of which no two numbers meet are read back from where they are written. -/
theorem Token.scan?_flatMap_chars {ts : List Token} (h : ts.IsChain Token.Parted) :
    Token.scan? (ts.flatMap Token.chars) = some ts := by
  obtain ⟨l, hl, hreads⟩ := Lexer.feedAll?_flatMap_chars ts (.between []) h (by simp)
  have hscan : (ts.flatMap Token.chars).foldlM Lexer.feed? Lexer.start = some l := hl
  rw [Token.scan?, hscan, Option.bind_some, hreads.finish?_eq]
  simp

end Json

end CentralSystem
