import CentralSystem.Frame
import CentralSystem.Proofs.Json.Text

namespace CentralSystem

theorem bind_eq_ok {ε α β : Type} {x : Except ε α} {f : α → Except ε β} {b : β} :
    x >>= f = .ok b ↔ ∃ a, x = .ok a ∧ f a = .ok b := by
  cases x with
  | error e => exact ⟨fun h => (nomatch h), fun ⟨_, h, _⟩ => (nomatch h)⟩
  | ok a => exact ⟨fun h => ⟨a, rfl, h⟩, fun ⟨_, ha, h⟩ => Except.ok.inj ha ▸ h⟩

theorem bind_eq_error {ε α β : Type} {x : Except ε α} {f : α → Except ε β} {e : ε} :
    x >>= f = .error e ↔ x = .error e ∨ ∃ a, x = .ok a ∧ f a = .error e := by
  cases x with
  | error _ =>
    refine ⟨fun h => .inl (congrArg Except.error (Except.error.inj h)), ?_⟩
    rintro (h | ⟨_, h, _⟩)
    · exact congrArg Except.error (Except.error.inj h)
    · cases h
  | ok a =>
    refine ⟨fun h => .inr ⟨a, rfl, h⟩, ?_⟩
    rintro (h | ⟨_, ha, h⟩)
    · cases h
    · exact Except.ok.inj ha ▸ h

variable {ε α β : Type} {x : Except ε α}

theorem mapError_eq_ok_iff {ε' : Type} {f : ε → ε'} {a : α} :
    x.mapError f = .ok a ↔ x = .ok a := by
  cases x <;> simp [Except.mapError]

theorem map_eq_ok_iff {f : α → β} {b : β} :
    x.map f = .ok b ↔ ∃ a, x = .ok a ∧ f a = b := by
  cases x <;> simp [Except.map]

theorem mapError_eq_error_iff {ε' : Type} {f : ε → ε'} {e : ε'} :
    x.mapError f = .error e ↔ ∃ e', x = .error e' ∧ f e' = e := by
  cases x <;> simp [Except.mapError]

theorem map_eq_error_iff {f : α → β} {e : ε} :
    x.map f = .error e ↔ x = .error e := by
  cases x <;> simp [Except.map]

namespace Frame

def maxPartDepth : Nat := Json.maxDepth - 1

/-- The frames that have a text: each payload is an object, each value fits within the envelope. -/
def WellFormed : Frame → Prop
  | call _ _ payload | callResult _ payload =>
    payload.isObject = true ∧ Json.Within maxPartDepth payload
  | callError _ _ _ details => Json.Within maxPartDepth details

theorem within_items {f : Frame} (h : f.WellFormed) :
    Json.Within Json.maxDepth (.array f.items) := by
  refine .array (n := maxPartDepth) ?_
  cases f with
  | call => simpa [items, Json.ofNat] using ⟨.number .., .string .., .string .., h.2⟩
  | callResult => simpa [items, Json.ofNat] using ⟨.number .., .string .., h.2⟩
  | callError =>
    simpa [items, Json.ofNat] using ⟨.number .., .string .., .string .., .string .., h⟩

theorem messageType?_ofNat {n : Nat} (h : n < 2 ^ 64) : messageType? (.ofNat n) = some n := by
  simp [messageType?, Json.ofNat, Numeral.ofNat, Numeral.nat?, h]

theorem ofItems_call (uniqueId action : String) (payload : Json) :
    ofItems [.ofNat 2, .string uniqueId, .string action, payload] =
      (objectPart .payload payload).map (call uniqueId action) := by
  simp only [ofItems, List.head?_cons, Option.bind_some, messageType?_ofNat (n := 2) (by decide)]
  rfl

theorem ofItems_callResult (uniqueId : String) (payload : Json) :
    ofItems [.ofNat 3, .string uniqueId, payload] =
      (objectPart .payload payload).map (callResult uniqueId) := by
  simp only [ofItems, List.head?_cons, Option.bind_some, messageType?_ofNat (n := 3) (by decide)]
  rfl

theorem ofItems_callError (uniqueId code description : String) (details : Json) :
    ofItems [.ofNat 4, .string uniqueId, .string code, .string description, details] =
      .ok (callError uniqueId code description details) := by
  simp only [ofItems, List.head?_cons, Option.bind_some, messageType?_ofNat (n := 4) (by decide)]
  rfl

theorem of_objectPart {part : FramePart} {j payload : Json} (h : objectPart part j = .ok payload) :
    j = payload ∧ payload.isObject = true := by
  unfold objectPart at h
  split at h
  · next hj =>
    obtain rfl := Except.ok.inj h
    exact ⟨rfl, hj⟩
  · cases h

theorem ofItems_items {f : Frame} (h : f.WellFormed) : ofItems f.items = .ok f := by
  cases f with
  | call uniqueId action payload =>
    rw [items, ofItems_call, objectPart, if_pos h.1]
    rfl
  | callResult uniqueId payload =>
    rw [items, ofItems_callResult, objectPart, if_pos h.1]
    rfl
  | callError uniqueId code description details => exact ofItems_callError ..

theorem eq_of_ofItems_items {f g : Frame} (h : ofItems f.items = .ok g) : f = g := by
  cases f with
  | call uniqueId action payload =>
    rw [items, ofItems_call] at h
    obtain ⟨j, hj, rfl⟩ := map_eq_ok_iff.1 h
    rw [(of_objectPart hj).1]
  | callResult uniqueId payload =>
    rw [items, ofItems_callResult] at h
    obtain ⟨j, hj, rfl⟩ := map_eq_ok_iff.1 h
    rw [(of_objectPart hj).1]
  | callError uniqueId code description details =>
    exact Except.ok.inj ((ofItems_callError ..).symm.trans h)

theorem wellFormed_of_ofItems {f : Frame} {items : List Json}
    (hi : ∀ j ∈ items, Json.Within maxPartDepth j) (h : ofItems items = .ok f) : f.WellFormed := by
  unfold ofItems at h
  split at h
  · cases h
  · split at h
    · obtain ⟨_, -, h⟩ := bind_eq_ok.1 h
      obtain ⟨_, -, h⟩ := bind_eq_ok.1 h
      obtain ⟨payload, hp, h⟩ := bind_eq_ok.1 h
      obtain rfl := Except.ok.inj h
      obtain ⟨rfl, hobject⟩ := of_objectPart hp
      exact ⟨hobject, hi _ (by simp)⟩
    · cases h
  · split at h
    · obtain ⟨_, -, h⟩ := bind_eq_ok.1 h
      obtain ⟨payload, hp, h⟩ := bind_eq_ok.1 h
      obtain rfl := Except.ok.inj h
      obtain ⟨rfl, hobject⟩ := of_objectPart hp
      exact ⟨hobject, hi _ (by simp)⟩
    · cases h
  · split at h
    · next details _ =>
      split at h
      · obtain ⟨_, -, h⟩ := bind_eq_ok.1 h
        obtain ⟨_, -, h⟩ := bind_eq_ok.1 h
        obtain ⟨_, -, h⟩ := bind_eq_ok.1 h
        obtain rfl := Except.ok.inj h
        cases details with
        | nil => exact .object .nil (by simp)
        | cons d _ => exact hi d (by simp)
      · cases h
    · cases h
  · cases h

theorem wellFormed_of_parse {text : String} {f : Frame} (h : parse text = .ok f) :
    f.WellFormed := by
  unfold parse at h
  split at h
  · cases h
  · next items hp =>
    have hw : Json.Within (maxPartDepth + 1) (.array items) := Json.within_of_parse? hp
    cases hw with
    | array hi => exact wellFormed_of_ofItems hi h
  · cases h

def part : Frame → Json
  | call _ _ payload | callResult _ payload => payload
  | callError _ _ _ details => details

def Unmarked (f : Frame) : Prop := f.part.Unmarked

def withPart (f : Frame) (j : Json) : Frame :=
  match f with
  | call uniqueId action _ => call uniqueId action j
  | callResult uniqueId _ => callResult uniqueId j
  | callError uniqueId code description _ => callError uniqueId code description j

theorem reread?_items (f : Frame) : (Json.array f.items).reread? =
    f.part.reread?.map fun j => .array (f.withPart j).items := by
  cases f <;> simp only [items, part, Json.reread?, Json.rereadItems?, Json.ofNat] <;>
    cases Json.reread? _ <;> rfl

theorem unmarked_iff {f : Frame} :
    f.Unmarked ↔ (Json.array f.items).reread? = some (.array f.items) := by
  rw [Unmarked, ← Json.reread?_eq_self_iff, reread?_items]
  constructor
  · intro h
    rw [h]
    cases f <;> rfl
  · intro h
    obtain ⟨j, hj, he⟩ := Option.map_eq_some_iff.1 h
    obtain rfl : j = f.part := by
      cases f <;> simpa [items, withPart, part] using he
    exact hj

theorem parse_render_iff {f : Frame} (h : f.WellFormed) :
    parse f.render = .ok f ↔ f.Unmarked := by
  rw [parse, render, Json.parse?_render (within_items h), unmarked_iff, reread?_items]
  constructor
  · intro hf
    cases hj : f.part.reread? with
    | none =>
      rw [hj] at hf
      cases hf
    | some j =>
      rw [hj] at hf
      rw [Option.map_some, eq_of_ofItems_items hf]
  · intro hf
    rw [hf]
    exact ofItems_items h

def Legible (f : Frame) : Prop := f.WellFormed ∧ f.Unmarked

theorem parse_render {f : Frame} (h : f.Legible) : parse f.render = .ok f :=
  (parse_render_iff h.1).2 h.2

theorem legible_of_parse_render {f g : Frame} (h : f.WellFormed) (hg : parse f.render = .ok g) :
    g.Legible := by
  refine ⟨wellFormed_of_parse hg, ?_⟩
  rw [parse, render, Json.parse?_render (within_items h), reread?_items] at hg
  cases hj : f.part.reread? with
  | none =>
    rw [hj] at hg
    cases hg
  | some j =>
    rw [hj] at hg
    obtain rfl := eq_of_ofItems_items hg
    have hpart : (f.withPart j).part = j := by cases f <;> rfl
    rw [Unmarked, hpart]
    exact Json.unmarked_of_reread? hj

/-- A frame is read back from its text just when it is well formed and no object in it is taken for a
number. Texts give well formed frames only, and the frames that are read of a written text are read
back from then on. -/
theorem round_trip (f : Frame) :
    (parse f.render = .ok f ↔ f.WellFormed ∧ f.Unmarked) ∧
      ∀ text, parse text = .ok f →
        f.WellFormed ∧ (parse f.render = .ok f ↔ f.Unmarked) ∧
          ∀ g, parse f.render = .ok g → parse g.render = .ok g ∧ (f.Unmarked → g = f) := by
  refine ⟨⟨fun h => ?_, parse_render⟩, fun text h => ?_⟩
  · have hf := wellFormed_of_parse h
    exact ⟨hf, (parse_render_iff hf).1 h⟩
  · have hf := wellFormed_of_parse h
    refine ⟨hf, parse_render_iff hf, fun g hg => ⟨?_, fun hu => ?_⟩⟩
    · exact parse_render (legible_of_parse_render hf hg)
    · exact Except.ok.inj (hg.symm.trans (parse_render ⟨hf, hu⟩))

set_option maxRecDepth 4000 in
theorem round_trip_respelled :
    ∃ f, parse "[2, \"1\",\"Heart\\u0062eat\", \x7b\"b\":0,\"a\":1E5 ,\"b\":[null]\x7d]" = .ok f ∧
      f.render = "[2,\"1\",\"Heartbeat\",\x7b\"a\":1e+5,\"b\":[null]\x7d]" ∧
      f.WellFormed ∧ f.Unmarked ∧ parse f.render = .ok f := by
  have h : parse "[2, \"1\",\"Heart\\u0062eat\", \x7b\"b\":0,\"a\":1E5 ,\"b\":[null]\x7d]" =
      .ok (.call "1" "Heartbeat" (.object
        [("a", .number ⟨false, 1, [], some ⟨false, 5, []⟩⟩), ("b", .array [.null])])) := by
    with_unfolding_all rfl
  have hu : (Frame.call "1" "Heartbeat" (.object
      [("a", .number ⟨false, 1, [], some ⟨false, 5, []⟩⟩), ("b", .array [.null])])).Unmarked :=
    Json.reread?_eq_self_iff _ |>.1 rfl
  obtain ⟨hw, hiff, -⟩ := (round_trip _).2 _ h
  exact ⟨_, h, by decide +kernel, hw, hu, hiff.2 hu⟩

set_option maxRecDepth 4000 in
/-- An object comes in with the key that is kept for numbers behind another one. In what is written
of it this key is the first, and the text is refused. -/
theorem marked_is_refused :
    ∃ f, parse "[2,\"1\",\"Heartbeat\",\x7b\"a\":1,\"$serde_json::private::Number\":\"2\"\x7d]" =
        .ok f ∧ f.WellFormed ∧
      f.render = "[2,\"1\",\"Heartbeat\",\x7b\"$serde_json::private::Number\":\"2\",\"a\":1\x7d]" ∧
      parse f.render = .error .invalidJson := by
  have h : parse "[2,\"1\",\"Heartbeat\",\x7b\"a\":1,\"$serde_json::private::Number\":\"2\"\x7d]" =
      .ok (.call "1" "Heartbeat" (.object
        [("$serde_json::private::Number", .string "2"), ("a", .ofNat 1)])) := by
    with_unfolding_all rfl
  exact ⟨_, h, wellFormed_of_parse h, by decide +kernel, by with_unfolding_all rfl⟩

end Frame

end CentralSystem
