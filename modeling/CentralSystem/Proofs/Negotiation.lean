import CentralSystem.Handshake
import Mathlib

namespace CentralSystem.Negotiation

open Text

section Trim

variable {α : Type} {p : α → Bool} {cs core : List α}

structure Trims (p : α → Bool) (cs core : List α) : Prop where
  around : ∃ before behind, cs = before ++ (core ++ behind) ∧
    (∀ c ∈ before, p c = true) ∧ ∀ c ∈ behind, p c = true
  first : ∀ c ∈ core.head?, p c = false
  last : ∀ c ∈ core.getLast?, p c = false

theorem dropWhile_around {before : List α} (hb : ∀ c ∈ before, p c = true)
    (h : ∀ c ∈ cs.head?, p c = false) : (before ++ cs).dropWhile p = cs := by
  rw [List.dropWhile_append_of_pos hb]
  cases cs with
  | nil => rfl
  | cons c rest => rw [List.dropWhile_cons_of_neg (by simp [h c rfl])]

theorem head?_dropWhile : ∀ c ∈ (cs.dropWhile p).head?, p c = false := by
  intro c hc
  have hnot := List.head?_dropWhile_not p cs
  rwa [hc] at hnot

theorem trims_iff : Trims p cs core ↔ trimBy p cs = core := by
  constructor
  · rintro ⟨⟨before, behind, rfl, hbefore, hbehind⟩, hfirst, hlast⟩
    have hreverse : (core ++ behind).reverse.dropWhile p = core.reverse := by
      rw [List.reverse_append]
      refine dropWhile_around (fun d hd => hbehind d (List.mem_reverse.1 hd)) ?_
      rwa [List.head?_reverse]
    cases core with
    | nil =>
      have hnone : behind.dropWhile p = [] := List.dropWhile_eq_nil_iff.2 hbehind
      rw [trimBy, List.dropWhile_append_of_pos hbefore, List.nil_append, hnone]
      rfl
    | cons c rest =>
      have hdrop : (before ++ (c :: rest ++ behind)).dropWhile p = c :: rest ++ behind :=
        dropWhile_around hbefore hfirst
      rw [trimBy, hdrop, hreverse, List.reverse_reverse]
  · rintro rfl
    have hcore : trimBy p cs = (cs.dropWhile p).rdropWhile p := rfl
    refine ⟨⟨cs.takeWhile p, (cs.dropWhile p).rtakeWhile p, ?_, fun c => List.mem_takeWhile_imp,
      fun c => List.mem_rtakeWhile_imp⟩, fun c hc => ?_, fun c hc => ?_⟩
    · rw [hcore, List.rdropWhile_append_rtakeWhile, List.takeWhile_append_dropWhile]
    · obtain ⟨rest, hrest⟩ := List.rdropWhile_prefix p (cs.dropWhile p)
      have hne : trimBy p cs ≠ [] := List.ne_nil_of_mem (List.mem_of_head? hc)
      have hfirst : c ∈ (cs.dropWhile p).head? := by
        rw [← hrest, ← hcore, List.head?_append_of_ne_nil _ hne]
        exact hc
      exact head?_dropWhile c hfirst
    · rw [trimBy, List.getLast?_reverse] at hc
      exact head?_dropWhile c hc

end Trim

/-- The names that a header offers: its pieces between commas, without the blanks around them and in
their order. A piece of nothing but blanks does not count. -/
inductive Offers (header : String) : List String → Prop
  | intro (pieces cores : List (List Char)) (hsome : pieces ≠ [])
    (hcomma : ∀ piece ∈ pieces, ',' ∉ piece)
    (hheader : header.toList = [','].intercalate pieces)
    (hcores : List.Forall₂ (Trims isBlank) pieces cores) :
    Offers header ((cores.filter (!·.isEmpty)).map String.ofList)

theorem pieces_eq {separator : Char} {ps : List (List Char)} (hsome : ps ≠ [])
    (hp : ∀ p ∈ ps, separator ∉ p) : pieces separator ([separator].intercalate ps) = ps := by
  have hparts : ∀ p ∈ pieces separator ([separator].intercalate ps), separator ∉ p :=
    fun _ => not_mem_of_mem_pieces
  have hsplit := List.splitOn_intercalate separator hparts (pieces_ne_nil _ _)
  rw [intercalate_pieces, List.splitOn_intercalate separator hp hsome] at hsplit
  exact hsplit.symm

theorem offers_iff {header : String} {names : List String} :
    Offers header names ↔ names = offers header := by
  have hcores {ps cores : List (List Char)} :
      List.Forall₂ (Trims isBlank) ps cores ↔ ps.map (trimBy isBlank) = cores := by
    rw [← List.forall₂_eq_eq_eq, List.forall₂_map_left_iff]
    exact ⟨.imp fun _ _ => trims_iff.1, .imp fun _ _ => trims_iff.2⟩
  constructor
  · rintro ⟨ps, cores, hsome, hcomma, hheader, hc⟩
    rw [offers, hheader, pieces_eq hsome hcomma, hcores.1 hc]
  · rintro rfl
    exact .intro _ _ (pieces_ne_nil _ _) (fun _ => not_mem_of_mem_pieces)
      (intercalate_pieces _ _).symm (hcores.2 rfl)

/-- Two letters that are the same but for the case. -/
def SameLetter (c d : Char) : Prop :=
  c = d ∨ (c.isUpper = true ∧ d.toNat = c.toNat + 32) ∨ (d.isUpper = true ∧ c.toNat = d.toNat + 32)

/-- Two names that are the same but for the case of the letters a to z. -/
def Alike (a b : String) : Prop := List.Forall₂ SameLetter a.toList b.toList

theorem isUpper_iff {c : Char} : c.isUpper = true ↔ 65 ≤ c.toNat ∧ c.toNat ≤ 90 := by
  simp [Char.isUpper, UInt32.le_iff_toNat_le, ← Char.toNat_val]

theorem toNat_toLower (c : Char) :
    c.toLower.toNat = if c.isUpper = true then c.toNat + 32 else c.toNat := by
  split
  · next h =>
    obtain ⟨-, hle⟩ := isUpper_iff.1 h
    rw [Char.toLower_eq_of_isUpper h, Char.toNat_ofNat, if_pos (.inl (by omega))]
  · next h => rw [Char.toLower_eq_of_not_isUpper h]

theorem toLower_eq_iff {c d : Char} : c.toLower = d.toLower ↔ SameLetter c d := by
  simp only [SameLetter, ← Char.toNat_inj, toNat_toLower, isUpper_iff]
  split <;> split <;> omega

theorem alike_iff {a b : String} :
    Alike a b ↔ a.toList.map Char.toLower = b.toList.map Char.toLower := by
  rw [Alike, ← List.forall₂_eq_eq_eq, List.forall₂_map_left_iff, List.forall₂_map_right_iff]
  simp only [toLower_eq_iff]

theorem alike_comm {a b : String} : Alike a b ↔ Alike b a := by
  rw [alike_iff, alike_iff, eq_comm]

theorem sameName_iff {a b : String} : sameName a b = true ↔ Alike a b := by
  rw [sameName, beq_iff_eq, alike_iff]

def Earliest (supported names : List String) (p : String) : Prop :=
  ∃ before behind, supported = before ++ p :: behind ∧ (∃ name ∈ names, Alike p name) ∧
    ∀ s ∈ before, ∀ name ∈ names, ¬Alike s name

section Choice

variable {supported names names' : List String} {p : String}

theorem any_sameName {s : String} :
    names.any (sameName · s) = true ↔ ∃ name ∈ names, Alike s name := by
  simp only [List.any_eq_true, sameName_iff, alike_comm]

theorem find?_eq_some_iff :
    (supported.find? fun s => names.any (sameName · s)) = some p ↔ Earliest supported names p := by
  rw [List.find?_eq_some_iff_append, any_sameName]
  simp only [Bool.not_eq_true', ← Bool.not_eq_true, any_sameName, not_exists, not_and]
  exact ⟨fun ⟨hp, before, behind, hs, hb⟩ => ⟨before, behind, hs, hp, hb⟩,
    fun ⟨before, behind, hs, hp, hb⟩ => ⟨hp, before, behind, hs, hb⟩⟩

theorem find?_eq_none_iff : (supported.find? fun s => names.any (sameName · s)) = none ↔
    ∀ s ∈ supported, ∀ name ∈ names, ¬Alike s name := by
  simp only [List.find?_eq_none, any_sameName, not_exists, not_and]

/-- What a list of offers comes to. -/
inductive Choice (supported names : List String) : Negotiation → Prop
  | noneOffered (h : names = []) : Choice supported names .noneOffered
  | first (p : String) (hs : supported = []) (h : names.head? = some p) :
    Choice supported names (.selected p)
  | earliest (p : String) (h : Earliest supported names p) : Choice supported names (.selected p)
  | unsupported (hs : supported ≠ []) (hn : names ≠ [])
    (h : ∀ s ∈ supported, ∀ name ∈ names, ¬Alike s name) : Choice supported names .unsupported

theorem choice_negotiate (supported : List String) (header : String) :
    Choice supported (offers header) (negotiate supported header) := by
  rw [negotiate]
  cases offers header with
  | nil => exact .noneOffered rfl
  | cons first rest =>
    cases supported with
    | nil => exact .first first rfl rfl
    | cons s more =>
      simp only [List.isEmpty_cons, Bool.false_eq_true, ↓reduceIte]
      split
      · next p hp => exact .earliest p (find?_eq_some_iff.1 hp)
      · next hnone =>
        exact .unsupported (List.cons_ne_nil _ _) (List.cons_ne_nil _ _) (find?_eq_none_iff.1 hnone)

theorem Earliest.mem (h : Earliest supported names p) :
    p ∈ supported ∧ ∃ name ∈ names, Alike p name := by
  obtain ⟨before, behind, rfl, hp, -⟩ := h
  exact ⟨List.mem_append_cons_self, hp⟩

theorem Choice.unique {r r' : Negotiation} (h : Choice supported names r)
    (h' : Choice supported names r') : r = r' := by
  have hclash {p : String} (he : Earliest supported names p) : supported ≠ [] ∧ names ≠ [] := by
    obtain ⟨hp, name, hname, -⟩ := he.mem
    exact ⟨List.ne_nil_of_mem hp, List.ne_nil_of_mem hname⟩
  cases h with
  | noneOffered hn =>
    cases h' with
    | noneOffered => rfl
    | first p _ hp => simp [hn] at hp
    | earliest p hp => exact absurd hn (hclash hp).2
    | unsupported _ hne _ => exact absurd hn hne
  | first p hs hp =>
    cases h' with
    | noneOffered hn => simp [hn] at hp
    | first p' _ hp' => rw [Option.some.inj (hp.symm.trans hp')]
    | earliest p' hp' => exact absurd hs (hclash hp').1
    | unsupported hne _ _ => exact absurd hs hne
  | earliest p hp =>
    cases h' with
    | noneOffered hn => exact absurd hn (hclash hp).2
    | first p' hs _ => exact absurd hs (hclash hp).1
    | earliest p' hp' =>
      have hfind := (find?_eq_some_iff.2 hp).symm.trans (find?_eq_some_iff.2 hp')
      rw [Option.some.inj hfind]
    | unsupported _ _ hnone =>
      obtain ⟨hmem, name, hname, ha⟩ := hp.mem
      exact absurd ha (hnone p hmem name hname)
  | unsupported hs hn hnone =>
    cases h' with
    | noneOffered hn' => exact absurd hn' hn
    | first p' hs' _ => exact absurd hs' hs
    | earliest p' hp' =>
      obtain ⟨hmem, name, hname, ha⟩ := hp'.mem
      exact absurd ha (hnone p' hmem name hname)
    | unsupported => rfl

theorem negotiate_eq_iff {header : String} {r : Negotiation} :
    negotiate supported header = r ↔ Choice supported (offers header) r :=
  ⟨fun h => h ▸ choice_negotiate supported header, (choice_negotiate supported header).unique⟩

theorem Choice.of_mem_iff {r : Negotiation} (h : Choice supported names r) (hs : supported ≠ [])
    (hmem : ∀ name, name ∈ names' ↔ name ∈ names) : Choice supported names' r := by
  have hempty : names' = [] ↔ names = [] := by
    simp only [List.eq_nil_iff_forall_not_mem, hmem]
  cases h with
  | noneOffered hn => exact .noneOffered (hempty.2 hn)
  | first p hs' _ => exact absurd hs' hs
  | earliest p hp =>
    obtain ⟨before, behind, he, ⟨name, hname, ha⟩, hb⟩ := hp
    exact .earliest p ⟨before, behind, he, ⟨name, (hmem name).2 hname, ha⟩,
      fun s hs name hname => hb s hs name ((hmem name).1 hname)⟩
  | unsupported _ hn hnone =>
    exact .unsupported hs (mt hempty.1 hn) fun s hs name hname =>
      hnone s hs name ((hmem name).1 hname)

end Choice

/-- The choice for every configuration and every header. -/
theorem choice_of_offers (supported : List String) (header : String) :
    (∀ names, Offers header names ↔ names = offers header) ∧
      (∀ r, negotiate supported header = r ↔ Choice supported (offers header) r) ∧
      (supported ≠ [] → ∀ header', (∀ name, name ∈ offers header' ↔ name ∈ offers header) →
        negotiate supported header' = negotiate supported header) := by
  refine ⟨fun _ => offers_iff, fun _ => negotiate_eq_iff, fun hs header' hmem => ?_⟩
  exact negotiate_eq_iff.2 ((choice_negotiate supported header).of_mem_iff hs hmem)

section Echo

variable {supported : List String} {a b header p : String}

/-- What a header can offer as it stands. -/
structure Offerable (name : String) : Prop where
  notEmpty : name ≠ ""
  noComma : ',' ∉ name.toList
  first : ∀ c ∈ name.toList.head?, isBlank c = false
  last : ∀ c ∈ name.toList.getLast?, isBlank c = false

theorem offers_of_offerable (h : Offerable a) : offers a = [a] := by
  have hself : Trims isBlank a.toList a.toList :=
    ⟨⟨[], [], by simp, by simp, by simp⟩, h.first, h.last⟩
  have hoffers : Offers a _ := .intro [a.toList] [a.toList] (List.cons_ne_nil _ _)
    (by simpa using h.noComma) (by simp) (.cons hself .nil)
  rw [← offers_iff.1 hoffers]
  simp [h.notEmpty]

theorem offerable_of_mem (h : a ∈ offers header) : Offerable a := by
  obtain ⟨core, hcore, rfl⟩ := List.mem_map.1 h
  obtain ⟨hmem, hne⟩ := List.mem_filter.1 hcore
  obtain ⟨piece, hpiece, htrim⟩ := List.mem_map.1 hmem
  obtain ⟨⟨before, behind, rfl, -⟩, hfirst, hlast⟩ := trims_iff.2 htrim
  refine ⟨by simpa using hne, fun hc => not_mem_of_mem_pieces hpiece ?_, ?_, ?_⟩
  · rw [String.toList_ofList] at hc
    simp [hc]
  · rwa [String.toList_ofList]
  · rwa [String.toList_ofList]

theorem exists_mem_offers_iff : (∃ header, a ∈ offers header) ↔ Offerable a :=
  ⟨fun ⟨_, h⟩ => offerable_of_mem h, fun h => ⟨a, by simp [offers_of_offerable h]⟩⟩

theorem toLower_of_not_isAlpha {c : Char} (h : ¬c.isAlpha = true) : c.toLower = c :=
  Char.toLower_eq_of_not_isUpper fun hu => h (by simp [Char.isAlpha, hu])

theorem toLower_eq_iff_of_not_isAlpha {c d : Char} (h : ¬d.isAlpha = true) :
    c.toLower = d ↔ c = d := by
  constructor
  · rintro rfl
    rw [Char.isAlpha_toLower_eq_isAlpha] at h
    exact (toLower_of_not_isAlpha h).symm
  · rintro rfl
    exact toLower_of_not_isAlpha h

theorem isBlank_of_isAlpha {c : Char} (h : c.isAlpha = true) : isBlank c = false := by
  have hrange : (65 ≤ c.toNat ∧ c.toNat ≤ 90) ∨ (97 ≤ c.toNat ∧ c.toNat ≤ 122) := by
    simpa [Char.isAlpha, Char.isUpper, Char.isLower, UInt32.le_iff_toNat_le, ← Char.toNat_val]
      using h
  simp only [isBlank, Bool.or_eq_false_iff, Bool.and_eq_false_iff, beq_eq_false_iff_ne,
    decide_eq_false_iff_not]
  omega

theorem isBlank_toLower (c : Char) : isBlank c.toLower = isBlank c := by
  by_cases h : c.isAlpha = true
  · rw [isBlank_of_isAlpha h, isBlank_of_isAlpha (by rwa [Char.isAlpha_toLower_eq_isAlpha])]
  · rw [toLower_of_not_isAlpha h]

theorem Alike.offerable (hab : Alike a b) (h : Offerable a) : Offerable b := by
  have hlower := alike_iff.1 hab
  have hcomma (name : String) : ',' ∈ name.toList.map Char.toLower ↔ ',' ∈ name.toList := by
    simp [toLower_eq_iff_of_not_isAlpha (show ¬Char.isAlpha ',' = true by decide)]
  have hblank (o : Option Char) :
      (∀ c ∈ o.map Char.toLower, isBlank c = false) ↔ ∀ c ∈ o, isBlank c = false := by
    cases o <;> simp [isBlank_toLower]
  refine ⟨fun hb => h.notEmpty ?_, ?_, ?_, ?_⟩
  · rw [hb] at hlower
    simpa using hlower
  · rw [← hcomma, ← hlower, hcomma]
    exact h.noComma
  · rw [← hblank, ← List.head?_map, ← hlower, List.head?_map, hblank]
    exact h.first
  · rw [← hblank, ← List.getLast?_map, ← hlower, List.getLast?_map, hblank]
    exact h.last

def Uncased (name : String) : Prop := ∀ c ∈ name.toList, ¬c.isAlpha = true

theorem map_toLower_of_uncased (h : Uncased a) : a.toList.map Char.toLower = a.toList :=
  (List.map_congr_left fun c hc => toLower_of_not_isAlpha (h c hc)).trans (List.map_id' _)

theorem Alike.eq_of_uncased (hab : Alike a b) (h : Uncased a) : b = a := by
  have hlower : a.toList = b.toList.map Char.toLower := by
    rw [← alike_iff.1 hab, map_toLower_of_uncased h]
  have hb : Uncased b := fun c hc halpha => by
    refine h c.toLower (hlower ▸ List.mem_map_of_mem hc) ?_
    rwa [Char.isAlpha_toLower_eq_isAlpha]
  rw [map_toLower_of_uncased hb] at hlower
  exact String.toList_injective hlower.symm

theorem exists_alike_ne (h : ¬Uncased a) (b : String) : ∃ name, Alike a name ∧ name ≠ b := by
  obtain ⟨c, hc, halpha⟩ : ∃ c ∈ a.toList, c.isAlpha = true := by
    simpa [Uncased] using h
  have hlower : Alike a (String.ofList (a.toList.map Char.toLower)) := by
    simp [alike_iff, Function.comp_def]
  have hupper : Alike a (String.ofList (a.toList.map Char.toUpper)) := by
    simp [alike_iff, Function.comp_def]
  by_cases hb : String.ofList (a.toList.map Char.toLower) = b
  · refine ⟨_, hupper, fun he => ?_⟩
    have hsame : c.toLower = c.toUpper := by
      refine List.map_inj_left.1 ?_ c hc
      simpa using congrArg String.toList (hb.trans he.symm)
    have hcase := Char.isUpper_toUpper_eq_isAlpha c
    rw [← hsame, Char.isUpper_toLower_eq_false, halpha] at hcase
    cases hcase
  · exact ⟨_, hlower, hb⟩

theorem mem_offers_of_selected (hcased : ∀ name ∈ supported, (∃ header, name ∈ offers header) →
    Uncased name) (h : negotiate supported header = .selected p) : p ∈ offers header := by
  cases negotiate_eq_iff.1 h with
  | first _ _ hp => exact List.mem_of_head? hp
  | earliest _ hp =>
    obtain ⟨hmem, name, hname, ha⟩ := hp.mem
    have hoffer : Offerable p := (alike_comm.1 ha).offerable (offerable_of_mem hname)
    rwa [ha.eq_of_uncased (hcased p hmem (exists_mem_offers_iff.2 hoffer))] at hname

/-- A supported name with a letter that can be offered is not always sent back as it was offered. -/
theorem exists_respelled (hmem : a ∈ supported) (hoffer : Offerable a) (hcased : ¬Uncased a) :
    ∃ header p, negotiate supported header = .selected p ∧ p ∉ offers header := by
  obtain ⟨q, hq⟩ : ∃ q, (supported.find? fun s => [a].any (sameName · s)) = some q := by
    rw [← Option.isSome_iff_exists, List.find?_isSome]
    exact ⟨a, hmem, any_sameName.2 ⟨a, List.mem_singleton_self a, alike_iff.2 rfl⟩⟩
  obtain ⟨name, ha, hne⟩ := exists_alike_ne hcased q
  have hoffers : offers name = [name] := offers_of_offerable (ha.offerable hoffer)
  have hfind : (supported.find? fun s => (offers name).any (sameName · s)) = some q := by
    rw [← hq, hoffers]
    congr 1
    funext s
    simp [sameName, alike_iff.1 ha]
  refine ⟨name, q, negotiate_eq_iff.2 (.earliest q (find?_eq_some_iff.1 hfind)), ?_⟩
  rw [hoffers, List.mem_singleton]
  exact hne.symm

/-- The name that is sent back is one of those offered but for the case of its letters: the first
offer as it is, or a supported name as it is. It is always spelled as it was offered just when the
supported names that can be offered have no letters. -/
theorem spelling_of_echo (supported : List String) :
    (∀ header p, negotiate supported header = .selected p →
      (∃ name ∈ offers header, Alike p name) ∧
        (if supported = [] then (offers header).head? = some p else p ∈ supported)) ∧
      ((∀ header p, negotiate supported header = .selected p → p ∈ offers header) ↔
        ∀ name ∈ supported, (∃ header, name ∈ offers header) → Uncased name) := by
  refine ⟨fun header p h => ?_, fun h name hmem hoffer => ?_, fun h header p => ?_⟩
  · cases negotiate_eq_iff.1 h with
    | first _ hs hp => exact ⟨⟨p, List.mem_of_head? hp, alike_iff.2 rfl⟩, by rwa [if_pos hs]⟩
    | earliest _ hp =>
      obtain ⟨hmem, hname⟩ := hp.mem
      exact ⟨hname, by rwa [if_neg (List.ne_nil_of_mem hmem)]⟩
  · by_contra hcased
    obtain ⟨header, p, hp, hnone⟩ := exists_respelled hmem (exists_mem_offers_iff.1 hoffer) hcased
    exact hnone (h header p hp)
  · exact mem_offers_of_selected h

/-- A station that writes the name in capitals is told the name in small letters. -/
theorem echo_is_respelled :
    offers "OCPP1.6" = ["OCPP1.6"] ∧ negotiate ["ocpp1.6"] "OCPP1.6" = .selected "ocpp1.6" ∧
      (Handshake.answer ["ocpp1.6"] "/ocpp/CP1" ["OCPP1.6"]).2.protocol = some "ocpp1.6" ∧
      ¬∀ supported header p, negotiate supported header = .selected p → p ∈ offers header := by
  have hoffers : offers "OCPP1.6" = ["OCPP1.6"] := by decide +kernel
  have hselected : negotiate ["ocpp1.6"] "OCPP1.6" = .selected "ocpp1.6" := by decide +kernel
  refine ⟨hoffers, hselected, by decide +kernel, fun h => ?_⟩
  have hmem := h _ _ _ hselected
  rw [hoffers] at hmem
  exact absurd hmem (by decide)

end Echo

end CentralSystem.Negotiation
