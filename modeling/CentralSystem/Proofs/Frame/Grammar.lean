import CentralSystem.Proofs.Frame

namespace CentralSystem

def FramePart.Admits : FramePart → Json → Prop
  | payload, j => ∃ members, j = .object members
  | _, j => ∃ s, j = .string s

namespace Frame

/-- The arrays that spell a frame. The details of an error may be left out, which stands for none. -/
inductive Spells : List Json → Frame → Prop
  | call (id action : String) (members : List (String × Json)) :
      Spells [.ofNat 2, .string id, .string action, .object members]
        (.call id action (.object members))
  | callResult (id : String) (members : List (String × Json)) :
      Spells [.ofNat 3, .string id, .object members] (.callResult id (.object members))
  | shortCallError (id code description : String) :
      Spells [.ofNat 4, .string id, .string code, .string description]
        (.callError id code description (.object []))
  | callError (id code description : String) (details : Json) :
      Spells [.ofNat 4, .string id, .string code, .string description, details]
        (.callError id code description details)

/-- What stands behind a message type: the parts whose type is checked, in order, and how many
elements there may be in all. -/
structure Layout where
  parts : List FramePart
  most : Nat
  expected : String

def Layout.Takes (layout : Layout) (count : Nat) : Prop :=
  layout.parts.length ≤ count ∧ count < layout.most

def layout? : Nat → Option Layout
  | 2 => some ⟨[.uniqueId, .action, .payload], 4, "4"⟩
  | 3 => some ⟨[.uniqueId, .payload], 3, "3"⟩
  | 4 => some ⟨[.uniqueId, .errorCode, .errorDescription], 5, "4 or 5"⟩
  | _ => none

/-- What is wrong with a text that reads as this value, or as none, and how soon it is looked for. -/
inductive Flaw : Option Json → Nat → FrameError → Prop
  | invalidJson : Flaw none 0 .invalidJson
  | notAnArray {j : Json} (h : ∀ items, j ≠ .array items) : Flaw (some j) 1 .notAnArray
  | invalidMessageType {items : List Json} (h : ∀ n < 2 ^ 64, items.head? ≠ some (.ofNat n)) :
      Flaw (some (.array items)) 2 .invalidMessageType
  | unknownMessageType {n : Nat} {rest : List Json} (hn : n < 2 ^ 64) (h : layout? n = none) :
      Flaw (some (.array (.ofNat n :: rest))) 3 (.unknownMessageType n)
  | arity {n : Nat} {layout : Layout} {rest : List Json} (hl : layout? n = some layout)
      (h : ¬layout.Takes rest.length) :
      Flaw (some (.array (.ofNat n :: rest))) 4 (.arity n layout.expected (rest.length + 1))
  | fieldType {n i : Nat} {layout : Layout} {rest : List Json} {part : FramePart} {j : Json}
      (hl : layout? n = some layout) (hj : (layout.parts.zip rest)[i]? = some (part, j))
      (h : ¬part.Admits j) :
      Flaw (some (.array (.ofNat n :: rest))) (i + 5) (.fieldType part)

def Fails (j? : Option Json) (e : FrameError) : Prop :=
  ∃ n, Flaw j? n e ∧ ∀ m e', Flaw j? m e' → n ≤ m

theorem messageType?_eq_some_iff {j : Json} {n : Nat} :
    messageType? j = some n ↔ j = .ofNat n ∧ n < 2 ^ 64 := by
  constructor
  · intro h
    unfold messageType? at h
    split at h
    · next m =>
      obtain ⟨hm, hlt⟩ := Option.filter_eq_some_iff.1 h
      unfold Numeral.nat? at hm
      split at hm
      · cases hm
      · next hplain =>
        obtain ⟨negative, whole, fraction, exponent⟩ := m
        obtain rfl := Option.some.inj hm
        simp only [Bool.or_eq_true, not_or, Bool.not_eq_true, Bool.not_eq_false',
          List.isEmpty_iff, Option.isSome_eq_false_iff, Option.isNone_iff_eq_none] at hplain
        obtain ⟨⟨rfl, rfl⟩, rfl⟩ := hplain
        exact ⟨rfl, by simpa using hlt⟩
    · cases h
  · rintro ⟨rfl, hlt⟩
    exact messageType?_ofNat hlt

theorem Flaw.unique {j? : Option Json} {n : Nat} {e e' : FrameError} (h : Flaw j? n e)
    (h' : Flaw j? n e') : e = e' := by
  cases h with
  | invalidJson | notAnArray | invalidMessageType | unknownMessageType =>
    cases h'
    rfl
  | arity hl =>
    cases h' with
    | arity hl' =>
      obtain rfl := Option.some.inj (hl.symm.trans hl')
      rfl
  | fieldType hl hj =>
    cases h' with
    | fieldType hl' hj' =>
      obtain rfl := Option.some.inj (hl.symm.trans hl')
      exact congrArg (FrameError.fieldType ·.1) (Option.some.inj (hj.symm.trans hj'))

theorem Fails.unique {j? : Option Json} {e e' : FrameError} (h : Fails j? e) (h' : Fails j? e') :
    e = e' := by
  obtain ⟨n, hf, hn⟩ := h
  obtain ⟨m, hf', hm⟩ := h'
  obtain rfl := Nat.le_antisymm (hn m e' hf') (hm n e hf)
  exact hf.unique hf'

section Layout

variable {n m : Nat} {layout : Layout} {rest : List Json} {e : FrameError}
  (hl : layout? n = some layout)
include hl

theorem lt_of_layout? : n < 2 ^ 64 := by
  unfold layout? at hl
  split at hl <;> simp_all

theorem Flaw.cases_layout (h : Flaw (some (.array (.ofNat n :: rest))) m e) :
    m = 4 ∧ ¬layout.Takes rest.length ∨
      ∃ i part j, m = i + 5 ∧ (layout.parts.zip rest)[i]? = some (part, j) ∧ ¬part.Admits j := by
  cases h with
  | notAnArray h => exact absurd rfl (h _)
  | invalidMessageType h => exact absurd rfl (h n (lt_of_layout? hl))
  | unknownMessageType _ h =>
    rw [hl] at h
    cases h
  | arity hl' h =>
    obtain rfl := Option.some.inj (hl.symm.trans hl')
    exact .inl ⟨rfl, h⟩
  | fieldType hl' hj h =>
    obtain rfl := Option.some.inj (hl.symm.trans hl')
    exact .inr ⟨_, _, _, rfl, hj, h⟩

theorem fails_arity (h : ¬layout.Takes rest.length) :
    Fails (some (.array (.ofNat n :: rest))) (.arity n layout.expected (rest.length + 1)) := by
  refine ⟨4, .arity hl h, fun m e' hf => ?_⟩
  rcases hf.cases_layout hl with ⟨rfl, -⟩ | ⟨i, -, -, rfl, -⟩ <;> omega

variable (hlength : layout.Takes rest.length)
include hlength

theorem fails_fieldType (i : Nat) {part : FramePart} {j : Json}
    (hfits : ∀ p ∈ (layout.parts.zip rest).take i, p.1.Admits p.2)
    (hj : (layout.parts.zip rest)[i]? = some (part, j)) (h : ¬part.Admits j) :
    Fails (some (.array (.ofNat n :: rest))) (.fieldType part) := by
  refine ⟨i + 5, .fieldType hl hj h, fun m e' hf => ?_⟩
  rcases hf.cases_layout hl with ⟨-, hbad⟩ | ⟨k, part', j', rfl, hj', h'⟩
  · exact absurd hlength hbad
  · by_contra hlt
    have hmem : (part', j') ∈ (layout.parts.zip rest).take i :=
      List.mem_of_getElem? ((List.getElem?_take_of_lt (by omega)).trans hj')
    exact h' (hfits _ hmem)

theorem not_flaw (hfits : ∀ p ∈ layout.parts.zip rest, p.1.Admits p.2) :
    ¬Flaw (some (.array (.ofNat n :: rest))) m e := by
  intro hf
  rcases hf.cases_layout hl with ⟨-, hbad⟩ | ⟨k, part, j, -, hj, h⟩
  · exact hbad hlength
  · exact h (hfits _ (List.mem_of_getElem? hj))

end Layout

theorem Spells.not_flaw {items : List Json} {f : Frame} (h : Spells items f) {m : Nat}
    {e : FrameError} : ¬Flaw (some (.array items)) m e := by
  cases h with
  | call | callResult | shortCallError | callError =>
    exact Frame.not_flaw rfl ⟨by simp, by simp⟩ (by simp [FramePart.Admits])

theorem Spells.unique {items : List Json} {f f' : Frame} (h : Spells items f)
    (h' : Spells items f') : f = f' := by
  cases h <;> cases h' <;> rfl

/-- An array spells a frame, or it is refused for its first flaw. -/
def Settled (items : List Json) (r : Except FrameError Frame) : Prop :=
  (∃ f, Spells items f ∧ r = .ok f) ∨ ∃ e, Fails (some (.array items)) e ∧ r = .error e

section Part

variable {n : Nat} (rest : List Json) {layout : Layout} {part : FramePart} {j : Json}
  (hl : layout? n = some layout)
  (hlength : layout.Takes rest.length) (i : Nat)
  (hj : (layout.parts.zip rest)[i]? = some (part, j))
  (hfits : ∀ p ∈ (layout.parts.zip rest).take i, p.1.Admits p.2)
include hl hlength hj hfits

theorem settled_string (hpart : part ≠ FramePart.payload) {next : String → Except FrameError Frame}
    (h : ∀ s, j = .string s → Settled (.ofNat n :: rest) (next s)) :
    Settled (.ofNat n :: rest) (stringPart part j >>= next) := by
  by_cases hadmits : ∃ s, j = .string s
  · obtain ⟨s, rfl⟩ := hadmits
    exact h s rfl
  · have herror : stringPart part j = .error (.fieldType part) := by
      cases j with
      | string s => exact absurd ⟨s, rfl⟩ hadmits
      | _ => rfl
    have hno : ¬part.Admits j := by
      cases part with
      | payload => exact absurd rfl hpart
      | _ => exact hadmits
    exact .inr ⟨_, fails_fieldType hl hlength i hfits hj hno, by rw [herror]; rfl⟩

theorem settled_object (hpart : part = .payload) {next : Json → Except FrameError Frame}
    (h : ∀ members, j = .object members → Settled (.ofNat n :: rest) (next j)) :
    Settled (.ofNat n :: rest) (objectPart part j >>= next) := by
  subst hpart
  by_cases hadmits : ∃ members, j = .object members
  · obtain ⟨members, rfl⟩ := hadmits
    exact h members rfl
  · have herror : objectPart .payload j = .error (.fieldType .payload) := by
      cases j with
      | object members => exact absurd ⟨members, rfl⟩ hadmits
      | _ => rfl
    exact .inr ⟨_, fails_fieldType hl hlength i hfits hj hadmits, by rw [herror]; rfl⟩

end Part

theorem settled_call (rest : List Json) :
    Settled (.ofNat 2 :: rest) (ofItems (.ofNat 2 :: rest)) := by
  simp only [ofItems, List.head?_cons, Option.bind_some, messageType?_ofNat (n := 2) (by decide)]
  split
  · next id action payload h =>
    obtain ⟨rfl, rfl⟩ := List.cons.inj h
    refine settled_string (n := 2) [id, action, payload] rfl ⟨by simp, by simp⟩ 0 rfl (by simp)
      (by decide) ?_
    rintro id rfl
    refine settled_string (n := 2) [.string id, action, payload] rfl ⟨by simp, by simp⟩ 1 rfl
      (by simp [FramePart.Admits]) (by decide) ?_
    rintro action rfl
    refine settled_object (n := 2) [.string id, .string action, payload] rfl ⟨by simp, by simp⟩ 2 rfl
      (by simp [FramePart.Admits]) rfl ?_
    rintro members rfl
    exact .inl ⟨_, .call id action members, rfl⟩
  · next h =>
    refine .inr ⟨_, fails_arity (n := 2) rfl fun hlength => ?_, rfl⟩
    obtain ⟨id, action, payload, rfl⟩ := List.length_eq_three.1
      (Nat.le_antisymm (Nat.le_of_lt_succ hlength.2) hlength.1)
    exact h _ _ _ _ rfl

theorem settled_callResult (rest : List Json) :
    Settled (.ofNat 3 :: rest) (ofItems (.ofNat 3 :: rest)) := by
  simp only [ofItems, List.head?_cons, Option.bind_some, messageType?_ofNat (n := 3) (by decide)]
  split
  · next id payload h =>
    obtain ⟨rfl, rfl⟩ := List.cons.inj h
    refine settled_string (n := 3) [id, payload] rfl ⟨by simp, by simp⟩ 0 rfl (by simp) (by decide) ?_
    rintro id rfl
    refine settled_object (n := 3) [.string id, payload] rfl ⟨by simp, by simp⟩ 1 rfl
      (by simp [FramePart.Admits]) rfl ?_
    rintro members rfl
    exact .inl ⟨_, .callResult id members, rfl⟩
  · next h =>
    refine .inr ⟨_, fails_arity (n := 3) rfl fun hlength => ?_, rfl⟩
    obtain ⟨id, payload, rfl⟩ := List.length_eq_two.1
      (Nat.le_antisymm (Nat.le_of_lt_succ hlength.2) hlength.1)
    exact h _ _ _ rfl

theorem settled_callError (rest : List Json) :
    Settled (.ofNat 4 :: rest) (ofItems (.ofNat 4 :: rest)) := by
  simp only [ofItems, List.head?_cons, Option.bind_some, messageType?_ofNat (n := 4) (by decide)]
  split
  · next id code description details h =>
    obtain ⟨rfl, rfl⟩ := List.cons.inj h
    split
    · next hdetails =>
      have hlength (a b c : Json) : (Layout.mk [.uniqueId, .errorCode, .errorDescription] 5
          "4 or 5").Takes (a :: b :: c :: details).length := ⟨by simp, by simp; omega⟩
      refine settled_string (n := 4) (id :: code :: description :: details) rfl (hlength _ _ _) 0
        rfl (by simp) (by decide) ?_
      rintro id rfl
      refine settled_string (n := 4) (.string id :: code :: description :: details) rfl
        (hlength _ _ _) 1 rfl (by simp [FramePart.Admits]) (by decide) ?_
      rintro code rfl
      refine settled_string (n := 4) (.string id :: .string code :: description :: details) rfl
        (hlength _ _ _) 2 rfl (by simp [FramePart.Admits]) (by decide) ?_
      rintro description rfl
      obtain _ | ⟨details, _ | ⟨_, _⟩⟩ := details
      · exact .inl ⟨_, .shortCallError id code description, rfl⟩
      · exact .inl ⟨_, .callError id code description details, rfl⟩
      · simp at hdetails
    · next hdetails =>
      refine .inr ⟨_, fails_arity (n := 4) rfl fun hlength => hdetails ?_, rfl⟩
      have hmost := hlength.2
      simp only [List.length_cons] at hmost
      omega
  · next h =>
    refine .inr ⟨_, fails_arity (n := 4) rfl fun hlength => ?_, rfl⟩
    obtain _ | ⟨id, _ | ⟨code, _ | ⟨description, details⟩⟩⟩ := rest
    · exact absurd hlength.1 (by simp)
    · exact absurd hlength.1 (by simp)
    · exact absurd hlength.1 (by simp)
    · exact h _ _ _ _ _ rfl

theorem settled_unknown {n : Nat} (hn : n < 2 ^ 64) (hl : layout? n = none) (rest : List Json) :
    Settled (.ofNat n :: rest) (ofItems (.ofNat n :: rest)) := by
  refine .inr ⟨.unknownMessageType n, ⟨3, .unknownMessageType hn hl, fun m e' hf => ?_⟩, ?_⟩
  · cases hf with
    | notAnArray h => exact absurd rfl (h _)
    | invalidMessageType h => exact absurd rfl (h n hn)
    | _ => omega
  · simp only [ofItems, List.head?_cons, Option.bind_some, messageType?_ofNat hn]
    split <;> first | rfl | simp_all [layout?]

theorem settled_ofItems (items : List Json) : Settled items (ofItems items) := by
  cases hn : items.head?.bind messageType? with
  | none =>
    have hno (n : Nat) (hlt : n < 2 ^ 64) : items.head? ≠ some (.ofNat n) := by
      intro hhead
      rw [hhead, Option.bind_some, messageType?_ofNat hlt] at hn
      cases hn
    refine .inr ⟨.invalidMessageType, ⟨2, .invalidMessageType hno, fun m e' hf => ?_⟩, ?_⟩
    · cases hf with
      | notAnArray h => exact absurd rfl (h _)
      | _ => omega
    · unfold ofItems
      rw [hn]
  | some n =>
    obtain ⟨j, hhead, hj⟩ := Option.bind_eq_some_iff.1 hn
    obtain ⟨rfl, hlt⟩ := messageType?_eq_some_iff.1 hj
    obtain ⟨rest, rfl⟩ := List.head?_eq_some_iff.1 hhead
    match n with
    | 2 => exact settled_call rest
    | 3 => exact settled_callResult rest
    | 4 => exact settled_callError rest
    | 0 | 1 | n + 5 => exact settled_unknown hlt rfl rest

/-- What reads as an array is settled by its items, anything else by its own first flaw. -/
theorem parse_cases (text : String) :
    (∃ items, Json.parse? text = some (.array items) ∧ Settled items (parse text)) ∨
      (∀ items, Json.parse? text ≠ some (.array items)) ∧
        ∃ e, Fails (Json.parse? text) e ∧ parse text = .error e := by
  unfold parse
  cases hj : Json.parse? text with
  | none =>
    exact .inr ⟨nofun, _, ⟨0, .invalidJson, fun _ _ _ => Nat.zero_le _⟩, rfl⟩
  | some j =>
    cases j with
    | array items => exact .inl ⟨items, rfl, settled_ofItems items⟩
    | _ =>
      refine .inr ⟨nofun, .notAnArray, ⟨1, .notAnArray nofun, fun m e' hf => ?_⟩, rfl⟩
      cases hf
      exact Nat.le_refl 1

theorem salvageUniqueId?_eq_some_iff {text id : String} :
    salvageUniqueId? text = some id ↔
      ∃ items, Json.parse? text = some (.array items) ∧ items[1]? = some (.string id) := by
  unfold salvageUniqueId?
  constructor
  · intro h
    split at h
    · next first id' rest hj =>
      obtain rfl := Option.some.inj h
      exact ⟨_, hj, rfl⟩
    · cases h
  · rintro ⟨items, hj, hid⟩
    match items, hid with
    | _ :: second :: _, hid =>
      obtain rfl := Option.some.inj hid
      rw [hj]

theorem Spells.getElem?_one {items : List Json} {f : Frame} (h : Spells items f) :
    items[1]? = some (.string f.uniqueId) := by
  cases h <;> rfl

/-- A text is a frame just when it is an array that spells one, and is otherwise refused for the
first thing that is wrong with it; the id that is saved from it stands at the place of a frame's. -/
theorem parse_iff (text : String) :
    (∀ f, parse text = .ok f ↔
      ∃ items, Json.parse? text = some (.array items) ∧ Spells items f) ∧
    (∀ e, parse text = .error e ↔ Fails (Json.parse? text) e) ∧
    (∀ id, salvageUniqueId? text = some id ↔
      ∃ items, Json.parse? text = some (.array items) ∧ items[1]? = some (.string id)) ∧
    ∀ f, parse text = .ok f → salvageUniqueId? text = some f.uniqueId := by
  have hok (f : Frame) : parse text = .ok f ↔
      ∃ items, Json.parse? text = some (.array items) ∧ Spells items f := by
    rcases parse_cases text with
      ⟨items, hj, ⟨f', hf', hp⟩ | ⟨e, he, hp⟩⟩ | ⟨hno, e, -, hp⟩ <;> rw [hp]
    · constructor
      · rintro ⟨⟩
        exact ⟨items, hj, hf'⟩
      · rintro ⟨items', hj', hf⟩
        obtain rfl := Json.array.inj (Option.some.inj (hj.symm.trans hj'))
        rw [hf.unique hf']
    · refine ⟨nofun, ?_⟩
      rintro ⟨items', hj', hf⟩
      obtain rfl := Json.array.inj (Option.some.inj (hj.symm.trans hj'))
      obtain ⟨n, hflaw, -⟩ := he
      exact absurd hflaw hf.not_flaw
    · exact ⟨nofun, fun ⟨items, hj, _⟩ => absurd hj (hno items)⟩
  have herror (e : FrameError) : parse text = .error e ↔ Fails (Json.parse? text) e := by
    rcases parse_cases text with
      ⟨items, hj, ⟨f, hf, hp⟩ | ⟨e', he', hp⟩⟩ | ⟨-, e', he', hp⟩
    · rw [hp, hj]
      exact ⟨nofun, fun ⟨n, hflaw, _⟩ => absurd hflaw hf.not_flaw⟩
    · rw [hp, hj]
      exact ⟨fun h => Except.error.inj h ▸ he', fun he => congrArg _ (he'.unique he)⟩
    · rw [hp]
      exact ⟨fun h => Except.error.inj h ▸ he', fun he => congrArg _ (he'.unique he)⟩
  refine ⟨hok, herror, fun id => salvageUniqueId?_eq_some_iff, fun f h => ?_⟩
  obtain ⟨items, hj, hf⟩ := (hok f).1 h
  exact salvageUniqueId?_eq_some_iff.2 ⟨items, hj, hf.getElem?_one⟩

set_option maxRecDepth 4000 in
theorem parse_iff_refusal :
    parse "[4,\"7\",\"NotSupported\",\"\"]" = .ok (.callError "7" "NotSupported" "" (.object [])) ∧
      salvageUniqueId? "[4,\"7\",\"NotSupported\",\"\"]" = some "7" ∧
      Fails (Json.parse? "[2,7,\"Heartbeat\"]") (.arity 2 "4" 3) := by
  have h : parse "[4,\"7\",\"NotSupported\",\"\"]" =
      .ok (.callError "7" "NotSupported" "" (.object [])) := by
    with_unfolding_all rfl
  have hshort : parse "[2,7,\"Heartbeat\"]" = .error (.arity 2 "4" 3) := by
    with_unfolding_all rfl
  exact ⟨h, (parse_iff _).2.2.2 _ h, ((parse_iff _).2.1 _).1 hshort⟩

end Frame

end CentralSystem
