import CentralSystem.Message.Request
import CentralSystem.Proofs.Message.Shape
import Mathlib.Data.List.TakeWhile

namespace CentralSystem

inductive Json.Part (j : Json) : Json → Prop
  | self : Part j j
  | item {items : List Json} {k : Json} (hk : k ∈ items) (h : Part j k) : Part j (.array items)
  | member {members : List (String × Json)} {m : String × Json} (hm : m ∈ members)
      (h : Part j m.2) : Part j (.object members)

namespace Mismatch

def Bare (s : String) : Prop := '\x60' ∉ s.toList

instance (s : String) : Decidable (Bare s) := inferInstanceAs (Decidable (_ ∉ _))

section Quoted

variable {a s b : String}

theorem Bare.append (ha : Bare a) (hb : Bare b) : Bare (a ++ b) := by
  rw [Bare, String.toList_append, List.mem_append]
  exact not_or.2 ⟨ha, hb⟩

def upToBacktick (s : String) : String := String.ofList (s.toList.takeWhile (· != '\x60'))

theorem bne_backtick (h : Bare s) : ∀ c ∈ s.toList, (c != '\x60') = true := by
  intro c hc
  rw [bne_iff_ne]
  rintro rfl
  exact h hc

theorem upToBacktick_eq_self (h : Bare s) : upToBacktick s = s := by
  rw [upToBacktick, List.takeWhile_eq_self_iff.2 (bne_backtick h), String.ofList_toList]

theorem firstQuoted?_eq_none (h : Bare s) : firstQuoted? s = none := by
  rw [firstQuoted?, List.dropWhile_eq_nil_iff.2 (bne_backtick h)]

theorem firstQuoted?_append (ha : Bare a) : firstQuoted? (a ++ s) = firstQuoted? s := by
  rw [firstQuoted?, String.toList_append, List.dropWhile_append_of_pos (bne_backtick ha)]
  rfl

theorem takeWhile_append_backtick (cs ds : List Char) :
    (cs ++ '\x60' :: ds).takeWhile (· != '\x60') = cs.takeWhile (· != '\x60') := by
  rw [List.takeWhile_append, List.takeWhile_cons_of_neg (by simp), List.append_nil]
  split
  · next h => exact ((List.takeWhile_prefix _).eq_of_length h).symm
  · rfl

theorem firstQuoted?_append_right (hb : Bare b) :
    firstQuoted? (s ++ b) = firstQuoted? s := by
  rw [firstQuoted?, firstQuoted?, String.toList_append, List.dropWhile_append]
  cases s.toList.dropWhile (· != '\x60') with
  | nil => simp [List.dropWhile_eq_nil_iff.2 (bne_backtick hb)]
  | cons _ cs =>
    by_cases hc : '\x60' ∈ cs
    · obtain ⟨before, runSteps, rfl, -⟩ := List.eq_append_cons_of_mem hc
      simp [takeWhile_append_backtick]
    · simp [hc, show '\x60' ∉ b.toList from hb]

theorem firstQuoted?_inBackticks (w b : String) :
    firstQuoted? (inBackticks w ++ b) = some (upToBacktick w) := by
  have hchars : (inBackticks w ++ b).toList =
      '\x60' :: (w.toList ++ '\x60' :: b.toList) := by
    simp [inBackticks]
  rw [firstQuoted?, hchars, List.dropWhile_cons_of_neg (by simp)]
  simp [takeWhile_append_backtick, upToBacktick]

end Quoted

theorem bare_toString (n : Nat) : Bare (toString n) := by
  intro h
  have hdigit := Nat.isDigit_of_mem_toDigits (by decide) (by decide) (Nat.toList_repr ▸ h)
  exact absurd hdigit (by decide)

theorem bare_tooFewItems (count fields : Nat) {record : String} (h : Bare record) :
    Bare (tooFewItems count record fields).message := by
  have hcount : Bare ("invalid length " ++ toString count) := .append (by decide) (bare_toString _)
  have hrecord : Bare ("invalid length " ++ toString count ++ ", expected struct " ++ record) :=
    .append (hcount.append (by decide)) h
  have hitems : Bare (if fields = 1 then " element" else " elements") := by
    split <;> decide
  exact ((hrecord.append (by decide)).append (bare_toString fields)).append hitems

theorem bare_tooManyItems (count : Nat) : Bare (tooManyItems count).message :=
  .append (.append (by decide) (bare_toString count)) (by decide)

theorem bare_timestamp (problem : TimestampError) : Bare (timestamp problem).message := by
  cases problem <;> decide

/-- What can be wrong with these values if their shape has fields of these names and no decimals. -/
inductive Arises (names : List String) (values : List Json) : Mismatch → Prop
  | type {j k : Json} {expected : String} (hk : k ∈ values) (h : j.Part k)
      (he : Bare expected) : Arises names values (.invalidType j expected)
  | word {w : String} {k : Json} {spellings : List String} (hk : k ∈ values)
      (h : Json.Part (.string w) k ∨ ∃ j, Json.Part (.object [(w, j)]) k) (hw : w ∉ spellings) :
      Arises names values (.unknownVariant w spellings)
  | missing {name : String} {k : Json} {members : List (String × Json)} (hk : k ∈ values)
      (h : Json.Part (.object members) k) (hm : members.lookup name = none) (hn : name ∈ names) :
      Arises names values (.missingField name)
  | plain {m : Mismatch} (h : Bare m.message) : Arises names values m

namespace Arises

variable {names names' : List String} {values values' : List Json} {m : Mismatch}

theorem mono (h : Arises names values m) (hn : names ⊆ names')
    (hv : ∀ j, ∀ k ∈ values, Json.Part j k → ∃ k' ∈ values', Json.Part j k') :
    Arises names' values' m := by
  cases h with
  | type hk h he =>
    obtain ⟨k', hk', h'⟩ := hv _ _ hk h
    exact .type hk' h' he
  | word hk h hw =>
    rcases h with h | ⟨j, h⟩
    · obtain ⟨k', hk', h'⟩ := hv _ _ hk h
      exact .word hk' (.inl h') hw
    · obtain ⟨k', hk', h'⟩ := hv _ _ hk h
      exact .word hk' (.inr ⟨j, h'⟩) hw
  | missing hk h hm hmem =>
    obtain ⟨k', hk', h'⟩ := hv _ _ hk h
    exact .missing hk' h' hm (hn hmem)
  | plain h => exact .plain h

theorem of_subset (h : Arises names values m) (hn : names ⊆ names') (hv : values ⊆ values') :
    Arises names' values' m :=
  h.mono hn fun _ k hk hj => ⟨k, hv hk, hj⟩

end Arises

end Mismatch

open Mismatch

mutual

def Shape.fieldNames : Shape α → List String
  | .list item => item.fieldNames
  | .record _ fields _ _ _ _ => fields.fieldNames
  | .text | .int32 | .uint32 | .timestamp | .decimal | .choice _ => []

def Fields.fieldNames : Fields σ → List String
  | .nil => []
  | .required name shape rest => name :: (shape.fieldNames ++ rest.fieldNames)
  | .optional name shape rest => name :: (shape.fieldNames ++ rest.fieldNames)
  | .trailing name shape => name :: shape.fieldNames

end

mutual

def Shape.plain : Shape α → Bool
  | .list item => item.plain
  | .record name fields _ _ _ _ => decide (Bare name) && fields.plain
  | .text | .int32 | .uint32 | .timestamp | .decimal | .choice _ => true

def Fields.plain : Fields σ → Bool
  | .nil => true
  | .required _ shape rest => shape.plain && rest.plain
  | .optional _ shape rest => shape.plain && rest.plain
  | .trailing _ shape => shape.plain

end

theorem Enumeration.arises_of_decode {α : Type} (e : Enumeration α) {j : Json} {m : Mismatch}
    (h : e.decode j = .error m) : Arises [] [j] m := by
  have hread {w : String} (hw : e.read w = .error m) :
      m = .unknownVariant w (e.spellings.map (·.1)) ∧ w ∉ e.spellings.map (·.1) := by
    unfold read at hw
    split at hw
    · cases hw
    · next hnone =>
      refine ⟨(Except.error.inj hw).symm, fun hmem => ?_⟩
      obtain ⟨p, hp, rfl⟩ := List.mem_map.1 hmem
      simpa using List.lookup_eq_none_iff.1 hnone p hp
  unfold decode at h
  split at h
  · obtain ⟨rfl, hw⟩ := hread h
    exact .word List.mem_cons_self (.inl .self) hw
  · next w k =>
    rcases bind_eq_error.1 h with hw | ⟨a, -, h⟩
    · obtain ⟨rfl, hw'⟩ := hread hw
      exact .word List.mem_cons_self (.inr ⟨k, .self⟩) hw'
    · split at h
      · cases h
      · obtain rfl := Except.error.inj h
        exact .type List.mem_cons_self (.member List.mem_cons_self .self) (by decide)
  · obtain rfl := Except.error.inj h
    exact .plain (by decide)
  · obtain rfl := Except.error.inj h
    exact .type List.mem_cons_self .self (by decide)

theorem exists_of_mapM_eq_error {α β ε : Type} {f : α → Except ε β} {xs : List α} {e : ε}
    (h : xs.mapM f = .error e) : ∃ x ∈ xs, f x = .error e := by
  induction xs with
  | nil => cases h
  | cons x xs ih =>
    rw [List.mapM_cons] at h
    rcases bind_eq_error.1 h with hx | ⟨_, -, h⟩
    · exact ⟨x, List.mem_cons_self, hx⟩
    · rcases bind_eq_error.1 h with hxs | ⟨_, -, h⟩
      · obtain ⟨y, hy, hf⟩ := ih hxs
        exact ⟨y, List.mem_cons_of_mem _ hy, hf⟩
      · cases h

theorem eq_error_of_pairUp {β σ : Type} {x : Except Fault β} {y : Except Fault σ} {f : Fault}
    (h : pairUp x y = .error f) : x = .error f ∨ y = .error f := by
  cases x with
  | ok b =>
    cases y with
    | ok s => cases h
    | error g => exact .inr (by simpa [pairUp] using h)
  | error g =>
    cases y with
    | ok s => exact .inl (by simpa [pairUp] using h)
    | error g' =>
      obtain rfl : g.worse g' = f := Except.error.inj h
      cases g with
      | missing n =>
        cases g' with
        | missing n' => exact .inl rfl
        | bad k m => exact .inr rfl
      | bad k m =>
        cases g' with
        | missing n' => exact .inl rfl
        | bad k' m' =>
          rw [Fault.worse]
          split
          · exact .inr rfl
          · exact .inl rfl

theorem eq_error_of_optionally {β : Type} {read : Json → Except Mismatch β} {j : Json}
    {m : Mismatch} (h : optionally read j = .error m) : read j = .error m := by
  unfold optionally at h
  split at h
  · cases h
  · exact map_eq_error_iff.1 h

section Leaves

variable {j : Json} {m : Mismatch}

theorem arises_of_readText (h : readText j = .error m) : Arises [] [j] m := by
  unfold readText at h
  split at h
  · cases h
  · obtain rfl := Except.error.inj h
    exact .type List.mem_cons_self .self (by decide)

theorem arises_of_number {α : Type} {number? : Option α}
    (h : number?.elim (Except.error Mismatch.invalidNumber) .ok = .error m) :
    Arises [] [j] m := by
  cases number? with
  | none =>
    obtain rfl := Except.error.inj h
    exact .plain (by decide)
  | some n => cases h

theorem arises_of_readInt32 (h : readInt32 j = .error m) : Arises [] [j] m := by
  unfold readInt32 at h
  split at h
  · exact arises_of_number h
  · obtain rfl := Except.error.inj h
    exact .type List.mem_cons_self .self (by decide)

theorem arises_of_readUInt32 (h : readUInt32 j = .error m) : Arises [] [j] m := by
  unfold readUInt32 at h
  split at h
  · exact arises_of_number h
  · obtain rfl := Except.error.inj h
    exact .type List.mem_cons_self .self (by decide)

theorem arises_of_readTimestamp (h : readTimestamp j = .error m) : Arises [] [j] m := by
  unfold readTimestamp at h
  split at h
  · obtain ⟨problem, -, rfl⟩ := mapError_eq_error_iff.1 h
    exact .plain (bare_timestamp problem)
  · obtain rfl := Except.error.inj h
    exact .type List.mem_cons_self .self (by decide)

end Leaves

theorem arises_of_lookup {β : Type} {x : Except Mismatch β} {members : List (String × Json)}
    {names : List String} {name : String} {j : Json} (hj : members.lookup name = some j)
    (hx : ∀ m, x = .error m → Arises names [j] m) {fault : Fault}
    (h : x.mapError (.bad name) = .error fault) :
    Arises names [.object members] fault.mismatch := by
  obtain ⟨m, hm, rfl⟩ := mapError_eq_error_iff.1 h
  obtain ⟨before, runSteps, rfl, -⟩ := List.lookup_eq_some_iff.1 hj
  refine (hx m hm).mono (List.Subset.refl _) fun _ k hk hpart => ?_
  obtain rfl := List.mem_singleton.1 hk
  exact ⟨_, List.mem_cons_self, .member (m := (name, k)) (by simp) hpart⟩

mutual

/-- What the reader of a shape can find wrong. -/
theorem Shape.arises_of_decode : (s : Shape α) → s.exact = true → s.plain = true → {j : Json} →
    {m : Mismatch} → s.decode j = .error m → Arises s.fieldNames [j] m
  | .text, _, _, _, _, h => arises_of_readText h
  | .int32, _, _, _, _, h => arises_of_readInt32 h
  | .uint32, _, _, _, _, h => arises_of_readUInt32 h
  | .timestamp, _, _, _, _, h => arises_of_readTimestamp h
  | .choice e, _, _, _, _, h => e.arises_of_decode h
  | .list item, he, hp, j, m, h => by
    unfold Shape.decode at h
    split at h
    · next items =>
      obtain ⟨k, hk, hm⟩ := exists_of_mapM_eq_error h
      refine (item.arises_of_decode he hp hm).mono (List.Subset.refl _) fun _ k' hk' hj => ?_
      obtain rfl := List.mem_singleton.1 hk'
      exact ⟨_, List.mem_cons_self, .item hk hj⟩
    · obtain rfl := Except.error.inj h
      exact .type List.mem_cons_self .self (by decide)
  | .record name fields pack _ _ _, he, hp, j, m, h => by
    simp only [Shape.plain, Bool.and_eq_true, decide_eq_true_eq] at hp
    unfold Shape.decode at h
    split at h
    · next members =>
      split at h
      · cases h
      · next f hf =>
        obtain rfl := Except.error.inj h
        exact fields.arises_of_decodeMembers he hp.2 hf
    · next items =>
      split at h
      · cases h
      · obtain rfl := Except.error.inj h
        exact .plain (bare_tooManyItems _)
      · next hf =>
        obtain rfl := Except.error.inj h
        exact (fields.arises_of_decodeItems he hp.2 (bare_tooFewItems _ _ hp.1) hf).mono
          (List.Subset.refl _) fun _ k hk hj => ⟨_, List.mem_cons_self, .item hk hj⟩
    · obtain rfl := Except.error.inj h
      exact .type List.mem_cons_self .self (.append (by decide) hp.1)

theorem Fields.arises_of_decodeMembers : (f : Fields σ) → f.exact = true → f.plain = true →
    {members : List (String × Json)} → {fault : Fault} →
    f.decodeMembers members = .error fault →
    Arises f.fieldNames [.object members] fault.mismatch
  | .nil, _, _, _, _, h => nomatch h
  | .required name shape rest, he, hp, members, fault, h => by
    simp only [Fields.exact, Fields.plain, Bool.and_eq_true] at he hp
    rcases eq_error_of_pairUp h with hb | hs
    · split at hb
      · next j hj =>
        exact (arises_of_lookup hj (fun m => shape.arises_of_decode he.1 hp.1) hb).of_subset
          (by simp [Fields.fieldNames]) (List.Subset.refl _)
      · next hj =>
        obtain rfl := Except.error.inj hb
        exact .missing List.mem_cons_self .self hj List.mem_cons_self
    · exact (rest.arises_of_decodeMembers he.2 hp.2 hs).of_subset
        (by simp [Fields.fieldNames]) (List.Subset.refl _)
  | .optional name shape rest, he, hp, members, fault, h => by
    simp only [Fields.exact, Fields.plain, Bool.and_eq_true] at he hp
    rcases eq_error_of_pairUp h with hb | hs
    · split at hb
      · next j hj =>
        exact (arises_of_lookup hj
          (fun m hm => shape.arises_of_decode he.1 hp.1 (eq_error_of_optionally hm)) hb).of_subset
          (by simp [Fields.fieldNames]) (List.Subset.refl _)
      · cases hb
    · exact (rest.arises_of_decodeMembers he.2 hp.2 hs).of_subset
        (by simp [Fields.fieldNames]) (List.Subset.refl _)
  | .trailing name shape, he, hp, members, fault, h => by
    rw [Fields.decodeMembers] at h
    split at h
    · next j hj =>
      exact (arises_of_lookup hj (fun m hm => shape.arises_of_decode he hp
        (eq_error_of_optionally (map_eq_error_iff.1 hm))) h).of_subset
        (by simp [Fields.fieldNames]) (List.Subset.refl _)
    · cases h

theorem Fields.arises_of_decodeItems : (f : Fields σ) → f.exact = true → f.plain = true →
    {tooFew : Mismatch} → Bare tooFew.message → {items : List Json} → {m : Mismatch} →
    f.decodeItems tooFew items = .error m → Arises f.fieldNames items m
  | .nil, _, _, _, _, _, _, h => nomatch h
  | .required .., _, _, _, ht, [], _, h => Except.error.inj h ▸ .plain ht
  | .required name shape rest, he, hp, _, ht, j :: items, m, h => by
    simp only [Fields.exact, Fields.plain, Bool.and_eq_true] at he hp
    rcases bind_eq_error.1 h with hb | ⟨_, -, h⟩
    · exact (shape.arises_of_decode he.1 hp.1 hb).of_subset (by simp [Fields.fieldNames]) (by simp)
    · rcases bind_eq_error.1 h with hs | ⟨_, -, h⟩
      · exact (rest.arises_of_decodeItems he.2 hp.2 ht hs).of_subset (by simp [Fields.fieldNames])
          (List.subset_cons_self ..)
      · cases h
  | .optional .., _, _, _, ht, [], _, h => Except.error.inj h ▸ .plain ht
  | .optional name shape rest, he, hp, _, ht, j :: items, m, h => by
    simp only [Fields.exact, Fields.plain, Bool.and_eq_true] at he hp
    rcases bind_eq_error.1 h with hb | ⟨_, -, h⟩
    · exact (shape.arises_of_decode he.1 hp.1 (eq_error_of_optionally hb)).of_subset
        (by simp [Fields.fieldNames]) (by simp)
    · rcases bind_eq_error.1 h with hs | ⟨_, -, h⟩
      · exact (rest.arises_of_decodeItems he.2 hp.2 ht hs).of_subset (by simp [Fields.fieldNames])
          (List.subset_cons_self ..)
      · cases h
  | .trailing .., _, _, _, _, [], _, h => nomatch h
  | .trailing name shape, he, hp, _, _, j :: items, m, h => by
    rcases bind_eq_error.1 h with hb | ⟨_, -, h⟩
    · exact (shape.arises_of_decode he hp (eq_error_of_optionally hb)).of_subset
        (by simp [Fields.fieldNames]) (by simp)
    · cases h

end

namespace Schema

inductive Blames {α : Type} (schema : Schema α) (payload : Json) : String → String → Prop
  | missing {name : String} {members : List (String × Json)}
      (hn : name ∈ schema.shape.fieldNames) (h : Json.Part (.object members) payload)
      (hm : members.lookup name = none) : Blames schema payload name (missingField name).message
  | bound {b : Bound α} {a : α} (hf : b.field ∈ schema.shape.fieldNames) (hb : b ∈ schema.bounds)
      (ha : schema.shape.decode payload = .ok a) (h : b.holds a = false) :
      Blames schema payload b.field b.reason
  /-- A diagnostic that quotes nothing blames the payload as a whole. -/
  | payload {reason : String} (h : firstQuoted? reason = none) :
      Blames schema payload "payload" reason
  | boolean {b : Bool} {expected : String} (h : Json.Part (.bool b) payload) :
      Blames schema payload (if b then "true" else "false") (invalidType (.bool b) expected).message
  /-- A word that is not known is blamed itself, up to the first backtick in it. -/
  | word {w : String} {spellings : List String}
      (h : Json.Part (.string w) payload ∨ ∃ j, Json.Part (.object [(w, j)]) payload)
      (hw : w ∉ spellings) :
      Blames schema payload (upToBacktick w) (unknownVariant w spellings).message
  /-- Of a text whose quoted form has two backticks what stands between them is blamed. -/
  | text {s q expected : String} (h : Json.Part (.string s) payload)
      (hq : firstQuoted? (Text.quoted s) = some q) :
      Blames schema payload q (invalidType (.string s) expected).message

variable {α : Type} {schema : Schema α} {payload : Json}

/-- Whether what a schema quotes are names of its fields: it has no decimals, its names have no
backticks, and its bounds are about its fields. -/
def isNamed (schema : Schema α) : Bool :=
  schema.shape.exact && schema.shape.plain &&
    schema.shape.fieldNames.all (fun name => decide (Bare name)) &&
    schema.bounds.all fun b => decide (b.field ∈ schema.shape.fieldNames)

theorem firstQuoted?_invalidType (j : Json) {expected : String} (he : Bare expected) :
    firstQuoted? (invalidType j expected).message = firstQuoted? j.describe := by
  have hmessage : (invalidType j expected).message =
      "invalid type: " ++ j.describe ++ ", expected " ++ expected := rfl
  rw [hmessage, firstQuoted?_append_right he, firstQuoted?_append_right (by decide),
    firstQuoted?_append (by decide)]

theorem blames_of_type {j : Json} {expected : String} (hj : j.Part payload)
    (he : Bare expected) :
    Blames schema payload ((firstQuoted? (invalidType j expected).message).getD "payload")
      (invalidType j expected).message := by
  have hquoted := firstQuoted?_invalidType j he
  have hplain (hd : firstQuoted? j.describe = none) : Blames schema payload
      ((firstQuoted? (invalidType j expected).message).getD "payload")
      (invalidType j expected).message := by
    rw [hquoted.trans hd]
    exact .payload (hquoted.trans hd)
  cases j with
  | null => exact hplain (by decide)
  | number n => exact hplain (show firstQuoted? "number" = none by decide)
  | array items => exact hplain (show firstQuoted? "sequence" = none by decide)
  | object members => exact hplain (show firstQuoted? "map" = none by decide)
  | bool b =>
    have hb : firstQuoted? (Json.bool b).describe = some (if b then "true" else "false") := by
      cases b <;> decide
    rw [hquoted, hb]
    exact .boolean hj
  | string s =>
    have hs : firstQuoted? (Json.string s).describe = firstQuoted? (Text.quoted s) :=
      firstQuoted?_append (by decide)
    cases hq : firstQuoted? (Text.quoted s) with
    | none => exact hplain (hs.trans hq)
    | some q =>
      rw [hquoted, hs, hq]
      exact .text hj hq

theorem blames_of_arises {m : Mismatch}
    (hn : ∀ name ∈ schema.shape.fieldNames, Bare name)
    (h : Arises schema.shape.fieldNames [payload] m) :
    Blames schema payload ((firstQuoted? m.message).getD "payload") m.message := by
  cases h with
  | type hk h he =>
    obtain rfl := List.mem_singleton.1 hk
    exact blames_of_type h he
  | @word w k spellings hk h hw =>
    obtain rfl := List.mem_singleton.1 hk
    have hquoted : firstQuoted? (unknownVariant w spellings).message = some (upToBacktick w) := by
      have hmessage : (unknownVariant w spellings).message =
          "unknown variant " ++ inBackticks w ++ ", " ++ alternatives spellings := rfl
      rw [hmessage, String.append_assoc, String.append_assoc, firstQuoted?_append (by decide),
        firstQuoted?_inBackticks]
    rw [hquoted]
    exact .word h hw
  | @missing name k members hk h hm hmem =>
    obtain rfl := List.mem_singleton.1 hk
    have hquoted : firstQuoted? (missingField name).message = some name := by
      have hmessage : (missingField name).message =
          "missing field " ++ (inBackticks name ++ "") := by
        rw [String.append_empty]
        rfl
      rw [hmessage, firstQuoted?_append (by decide), firstQuoted?_inBackticks,
        upToBacktick_eq_self (hn name hmem)]
    rw [hquoted]
    exact .missing hmem h hm
  | plain h =>
    have hquoted := firstQuoted?_eq_none h
    rw [hquoted]
    exact .payload hquoted

theorem blames_of_decode_eq_error (hs : schema.isNamed = true) {e : Error}
    (h : schema.decode payload = .error e) :
    ∃ field reason, e = .validation field reason ∧ schema.Blames payload field reason := by
  simp only [isNamed, Bool.and_eq_true, List.all_eq_true, decide_eq_true_eq] at hs
  obtain ⟨⟨⟨he, hp⟩, hn⟩, hb⟩ := hs
  rcases bind_eq_error.1 h with hread | ⟨a, hread, h⟩
  · obtain ⟨m, hm, rfl⟩ := mapError_eq_error_iff.1 hread
    exact ⟨_, _, rfl, blames_of_arises hn (schema.shape.arises_of_decode he hp hm)⟩
  · rcases bind_eq_error.1 h with hcheck | ⟨_, -, h⟩
    · unfold check at hcheck
      split at hcheck
      · next b hfind =>
        obtain rfl := Except.error.inj hcheck
        have hmem := List.mem_of_find?_eq_some hfind
        have hfails : b.holds a = false := by simpa using List.find?_some hfind
        exact ⟨_, _, rfl, .bound (hb b hmem) hmem (mapError_eq_ok_iff.1 hread) hfails⟩
      · cases hcheck
    · cases h

end Schema

namespace Request

def Blames : Action → Json → String → String → Prop
  | .bootNotification => BootNotification.schema.Blames
  | .authorize => Authorize.schema.Blames
  | .heartbeat => Heartbeat.schema.Blames
  | .startTransaction => StartTransaction.schema.Blames
  | .stopTransaction => StopTransaction.schema.Blames
  | .meterValues => MeterValues.schema.Blames
  | .statusNotification => StatusNotification.schema.Blames
  | .dataTransfer => DataTransfer.schema.Blames
  | .diagnosticsStatusNotification => DiagnosticsStatusNotification.schema.Blames
  | .firmwareStatusNotification => FirmwareStatusNotification.schema.Blames
  | _ => fun _ _ _ => False

/-- Every refusal of a payload is a validation error. It names a field of the action that is missing
or out of bounds, or a boolean, a word or a part of a text in the payload, or no field. -/
theorem blames_of_decode {a : Action} (ha : a ∈ Action.inbound) {payload : Json} {e : Error}
    (h : decode a.name payload = .error e) :
    ∃ field reason, e = .validation field reason ∧ Blames a payload field reason := by
  unfold decode at h
  rw [Action.ofName?_inbound_name ha] at h
  cases a
  case bootNotification | authorize | heartbeat | startTransaction | stopTransaction | meterValues |
      statusNotification | dataTransfer | diagnosticsStatusNotification |
      firmwareStatusNotification =>
    exact Schema.blames_of_decode_eq_error (by decide) (map_eq_error_iff.1 h)
  all_goals exact absurd ha (by decide)

theorem blames_of_decode_missing :
    ∃ reason, decode "Authorize" (.object []) = .error (.validation "idTag" reason) ∧
      Blames .authorize (.object []) "idTag" reason := by
  have hrun : decode "Authorize" (.object []) =
      .error (.validation "idTag" (missingField "idTag").message) := by decide +kernel
  obtain ⟨field, reason, he, hb⟩ :=
    blames_of_decode (show .authorize ∈ Action.inbound by decide) hrun
  obtain ⟨rfl, rfl⟩ := Error.validation.inj he
  exact ⟨_, hrun, hb⟩

/-- A status that nobody knows and a boolean where a text is due are blamed themselves, though there
are no fields of these names. -/
theorem value_is_blamed :
    decode "DiagnosticsStatusNotification" (.object [("status", .string "Oops")]) =
        .error (.validation "Oops" ("unknown variant `Oops`, expected one of " ++
          "`Idle`, `Uploaded`, `UploadFailed`, `Uploading`")) ∧
      "Oops" ∉ "payload" :: DiagnosticsStatusNotification.schema.shape.fieldNames ∧
      decode "Authorize" (.object [("idTag", .bool true)]) =
        .error (.validation "true" "invalid type: boolean `true`, expected a string") ∧
      "true" ∉ "payload" :: Authorize.schema.shape.fieldNames := by
  refine ⟨?_, ?_, ?_, ?_⟩ <;> decide +kernel

end Request

end CentralSystem
