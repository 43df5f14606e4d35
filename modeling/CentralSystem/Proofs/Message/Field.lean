import CentralSystem.Proofs.Message.Shape

namespace CentralSystem

namespace Json

/-- What stands for a field, where these are the names of all fields in their order. -/
def field? (names : List String) (j : Json) (name : String) : Option Json :=
  match j with
  | .object members => members.lookup name
  | .array items => (names.zip items).lookup name
  | _ => none

def word? : Json → Option String
  | .string s => some s
  | .object [(s, .null)] => some s
  | _ => none

end Json

namespace Enumeration

variable {α : Type} {e : Enumeration α} {a : α}

theorem mem_of_ofName? {w : String} (h : e.ofName? w = some a) : w ∈ e.aliases a ∨ w = e.name a := by
  obtain ⟨before, runSteps, hsplit, -⟩ := List.lookup_eq_some_iff.1 h
  have hmem : (w, a) ∈ e.spellings := by simp [hsplit]
  simp only [spellings, spellingsOf, List.mem_flatMap, List.mem_map, Prod.mk.injEq] at hmem
  obtain ⟨a', -, w', hw, rfl, rfl⟩ := hmem
  exact (List.mem_append.1 hw).imp_right List.mem_singleton.1

theorem read_eq_ok_iff {w : String} : e.read w = .ok a ↔ e.ofName? w = some a := by
  unfold read
  cases e.ofName? w <;> simp

theorem word_of_decode {j : Json} (h : e.decode j = .ok a) :
    ∃ w, j.word? = some w ∧ e.ofName? w = some a := by
  unfold decode at h
  split at h
  · next w => exact ⟨w, rfl, read_eq_ok_iff.1 h⟩
  · next w j =>
    obtain ⟨a', ha', h⟩ := bind_eq_ok.1 h
    split at h
    · obtain rfl := Except.ok.inj h
      exact ⟨w, rfl, read_eq_ok_iff.1 ha'⟩
    · cases h
  · cases h
  · cases h

end Enumeration

/-- Whether an optional value is read from what stands for it, if anything does. -/
def Shape.ReadsOption {β : Type} (shape : Shape β) (j? : Option Json) (b? : Option β) : Prop :=
  j?.elim (.ok none) (optionally shape.decode) = .ok b?

/-- Whether the fields have these values, each read from what stands for it. -/
def Fields.Reads (get : String → Option Json) : {σ : Type} → Fields σ → σ → Prop
  | _, .nil, _ => True
  | _, .required name shape rest, (b, s) =>
    (∃ j, get name = some j ∧ shape.decode j = .ok b) ∧ rest.Reads get s
  | _, .optional name shape rest, (b?, s) => shape.ReadsOption (get name) b? ∧ rest.Reads get s
  | _, .trailing name shape, (b?, ()) => shape.ReadsOption (get name) b?

namespace Fields

variable {get get' : String → Option Json}

theorem Reads.congr : {σ : Type} → {f : Fields σ} → {s : σ} → f.Reads get s →
    (∀ n ∈ f.names, get' n = get n) → f.Reads get' s
  | _, .nil, _, _, _ => trivial
  | _, .required name _ rest, (_, _), hr, h => by
    obtain ⟨⟨j, hj, hb⟩, hs⟩ := hr
    exact ⟨⟨j, (h name List.mem_cons_self).trans hj, hb⟩,
      hs.congr fun n hn => h n (List.mem_cons_of_mem _ hn)⟩
  | _, .optional name _ rest, (_, _), hr, h => by
    rw [Reads, h name List.mem_cons_self]
    exact ⟨hr.1, hr.2.congr fun n hn => h n (List.mem_cons_of_mem _ hn)⟩
  | _, .trailing name _, (_, ()), hr, h => by
    rw [Reads, h name List.mem_cons_self]
    exact hr

theorem reads_of_decodeMembers {members : List (String × Json)} : {σ : Type} → (f : Fields σ) →
    {s : σ} → f.decodeMembers members = .ok s → f.Reads (members.lookup ·) s
  | _, .nil, _, _ => trivial
  | _, .required name shape rest, (b, s), h => by
    obtain ⟨hb, hs⟩ := pairUp_eq_ok_iff.1 h
    refine ⟨?_, rest.reads_of_decodeMembers hs⟩
    split at hb
    · next j hj => exact ⟨j, hj, mapError_eq_ok_iff.1 hb⟩
    · cases hb
  | _, .optional name shape rest, (b?, s), h => by
    obtain ⟨hb, hs⟩ := pairUp_eq_ok_iff.1 h
    refine ⟨?_, rest.reads_of_decodeMembers hs⟩
    dsimp only
    rw [Shape.ReadsOption]
    split at hb
    · next j hj =>
      rw [hj]
      exact mapError_eq_ok_iff.1 hb
    · next hj =>
      rw [hj, ← Except.ok.inj hb]
      rfl
  | _, .trailing name shape, (b?, ()), h => by
    rw [decodeMembers] at h
    rw [Reads, Shape.ReadsOption]
    split at h
    · next j hj =>
      obtain ⟨b', hb, he⟩ := map_eq_ok_iff.1 (mapError_eq_ok_iff.1 h)
      obtain rfl := (Prod.mk.inj he).1
      rw [hj]
      exact hb
    · next hj =>
      obtain rfl := (Prod.mk.inj (Except.ok.inj h)).1
      rw [hj]
      rfl

theorem Reads.of_tail {σ : Type} {rest : Fields σ} {s : σ} {name : String} {j : Json}
    {items : List Json} (hn : (name :: rest.names).Nodup)
    (h : rest.Reads ((rest.names.zip items).lookup ·) s) :
    rest.Reads (((name :: rest.names).zip (j :: items)).lookup ·) s := by
  refine h.congr fun n hmem => ?_
  rw [List.zip_cons_cons, Json.lookup_cons, if_neg (ne_of_mem_names hn hmem)]

theorem reads_of_decodeItems {tooFew : Mismatch} : {σ : Type} → (f : Fields σ) → f.names.Nodup →
    {items left : List Json} → {s : σ} → f.decodeItems tooFew items = .ok (s, left) →
    f.Reads ((f.names.zip items).lookup ·) s
  | _, .nil, _, _, _, _, _ => trivial
  | _, .required .., _, [], _, _, h => nomatch h
  | _, .required name shape rest, hn, j :: items, left, (b, s), h => by
    obtain ⟨b', hb, h⟩ := bind_eq_ok.1 h
    obtain ⟨⟨s', left'⟩, hs, h⟩ := bind_eq_ok.1 h
    obtain ⟨⟨rfl, rfl⟩, rfl⟩ := by simpa [pure, Except.pure] using h
    refine ⟨⟨j, List.lookup_cons_self, hb⟩, ?_⟩
    exact (rest.reads_of_decodeItems (List.nodup_cons.1 hn).2 hs).of_tail hn
  | _, .optional .., _, [], _, _, h => nomatch h
  | _, .optional name shape rest, hn, j :: items, left, (b?, s), h => by
    obtain ⟨b', hb, h⟩ := bind_eq_ok.1 h
    obtain ⟨⟨s', left'⟩, hs, h⟩ := bind_eq_ok.1 h
    obtain ⟨⟨rfl, rfl⟩, rfl⟩ := by simpa [pure, Except.pure] using h
    refine ⟨?_, (rest.reads_of_decodeItems (List.nodup_cons.1 hn).2 hs).of_tail hn⟩
    show shape.ReadsOption (((name, j) :: rest.names.zip items).lookup name) b'
    rw [List.lookup_cons_self]
    exact hb
  | _, .trailing name shape, _, [], left, (b?, ()), h => by
    obtain ⟨rfl, -⟩ := Prod.mk.inj (Prod.mk.inj (Except.ok.inj h)).1
    rfl
  | _, .trailing name shape, _, j :: items, left, (b?, ()), h => by
    obtain ⟨b', hb, h⟩ := bind_eq_ok.1 h
    obtain ⟨rfl, -⟩ := Prod.mk.inj (Prod.mk.inj (Except.ok.inj h)).1
    show shape.ReadsOption (([(name, j)]).lookup name) b'
    rw [List.lookup_cons_self]
    exact hb

end Fields

theorem Shape.reads_of_decode {σ α : Type} {name : String} {fields : Fields σ} {pack : σ → α}
    {unpack : α → σ} {hpu : ∀ a, pack (unpack a) = a} {hup : ∀ s, unpack (pack s) = s}
    (hn : fields.names.Nodup) {j : Json} {a : α}
    (h : (Shape.record name fields pack unpack hpu hup).decode j = .ok a) :
    fields.Reads (j.field? fields.names) (unpack a) := by
  unfold Shape.decode at h
  split at h
  · next members =>
    split at h
    · next s hs =>
      obtain rfl := Except.ok.inj h
      rw [hup]
      exact fields.reads_of_decodeMembers hs
    · cases h
  · next items =>
    split at h
    · next s hs =>
      obtain rfl := Except.ok.inj h
      rw [hup]
      exact fields.reads_of_decodeItems hn hs
    · cases h
    · cases h
  · cases h

theorem forall₂_of_mapM {α : Type} {read : Json → Except Mismatch α} {items : List Json}
    {xs : List α} (h : items.mapM read = .ok xs) : List.Forall₂ (read · = .ok ·) items xs := by
  induction items generalizing xs with
  | nil =>
    obtain rfl := Except.ok.inj h
    exact .nil
  | cons j items ih =>
    rw [List.mapM_cons] at h
    obtain ⟨x, hx, h⟩ := bind_eq_ok.1 h
    obtain ⟨rest, hrest, h⟩ := bind_eq_ok.1 h
    obtain rfl := Except.ok.inj h
    exact .cons hx (ih hrest)

theorem Shape.forall₂_of_decode_list {α : Type} {item : Shape α} {j : Json} {xs : List α}
    (h : (Shape.list item).decode j = .ok xs) :
    ∃ items, j = .array items ∧ List.Forall₂ (item.decode · = .ok ·) items xs := by
  cases j with
  | array items => exact ⟨items, rfl, forall₂_of_mapM h⟩
  | _ => cases h

/-- A word for a value of an enumeration is read as this value, and what is no word as none. -/
theorem Enumeration.word_of_readsOption {α : Type} {e : Enumeration α} {j? : Option Json}
    {a? : Option α} (h : (Shape.choice e).ReadsOption j? a?) :
    j?.bind Json.word? = none ∧ a? = none ∨
      ∃ w a, j?.bind Json.word? = some w ∧ a? = some a ∧ e.ofName? w = some a := by
  unfold Shape.ReadsOption at h
  cases j? with
  | none => exact .inl ⟨rfl, (Except.ok.inj h).symm⟩
  | some j =>
    rw [Option.elim_some, optionally.eq_def] at h
    split at h
    · exact .inl ⟨rfl, (Except.ok.inj h).symm⟩
    · obtain ⟨a, ha, rfl⟩ := map_eq_ok_iff.1 h
      obtain ⟨w, hw, hread⟩ := word_of_decode ha
      exact .inr ⟨w, a, hw, rfl, hread⟩

theorem Enumeration.name_of_readsOption {α : Type} {e : Enumeration α}
    (hone : ∀ a, e.aliases a = []) {j? : Option Json} {a? : Option α}
    (h : (Shape.choice e).ReadsOption j? a?) : a?.map e.name = j?.bind Json.word? := by
  obtain ⟨hw, rfl⟩ | ⟨w, a, hw, rfl, hread⟩ := word_of_readsOption h
  · exact hw.symm
  · rw [hw, Option.map_some]
    rcases mem_of_ofName? hread with hmem | rfl
    · rw [hone] at hmem
      cases hmem
    · rfl

end CentralSystem
