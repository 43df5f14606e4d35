import CentralSystem.Message.Shape
import CentralSystem.Proofs.Decimal
import CentralSystem.Proofs.Frame
import CentralSystem.Proofs.Json.Text
import CentralSystem.Proofs.Timestamp

namespace CentralSystem

namespace Json

variable {ms : List (String × Json)}

theorem lookup_cons (k key : String) (v : Json) :
    ((key, v) :: ms).lookup k = if k = key then some v else ms.lookup k := by
  by_cases h : k = key
  · simp [h]
  · simp [List.lookup_cons, h, beq_false_of_ne h]

theorem lookup_insertMember (k key : String) (v : Json) :
    (insertMember key v ms).lookup k = if k = key then some v else ms.lookup k := by
  induction ms with
  | nil => exact lookup_cons k key v
  | cons m ms ih =>
    obtain ⟨key', v'⟩ := m
    rw [insertMember]
    split
    · exact lookup_cons k key v
    · split
      · next h =>
        rw [lookup_cons, lookup_cons, ← h]
        split <;> rfl
      · next h =>
        rw [lookup_cons, ih, lookup_cons]
        split_ifs with h' h''
        · exact absurd (h''.symm.trans h') h
        all_goals rfl

theorem lookup_eq_none {k : String} (h : k ∉ ms.map Prod.fst) : ms.lookup k = none := by
  induction ms with
  | nil => rfl
  | cons m ms ih =>
    obtain ⟨key, v⟩ := m
    rw [List.map_cons, List.mem_cons, not_or] at h
    rw [lookup_cons, if_neg h.1, ih h.2]

theorem lookup_foldl_insertMember (h : (ms.map Prod.fst).Nodup) (k : String)
    (into : List (String × Json)) :
    (ms.foldl (fun ms m => insertMember m.1 m.2 ms) into).lookup k =
      (ms.lookup k).or (into.lookup k) := by
  induction ms generalizing into with
  | nil => rfl
  | cons m ms ih =>
    obtain ⟨key, v⟩ := m
    rw [List.map_cons, List.nodup_cons] at h
    rw [List.foldl_cons, ih h.2, lookup_insertMember, lookup_cons]
    split
    · next he =>
      rw [lookup_eq_none (he ▸ h.1)]
      rfl
    · rfl

end Json

mutual

/-- Whether every record in the shape tells its fields apart. -/
def Shape.distinct : Shape α → Bool
  | .list item => item.distinct
  | .record _ fields _ _ _ _ => decide fields.names.Nodup && fields.distinct
  | .text | .int32 | .uint32 | .timestamp | .decimal | .choice _ => true

def Fields.distinct : Fields σ → Bool
  | .nil => true
  | .required _ shape rest => shape.distinct && rest.distinct
  | .optional _ shape rest => shape.distinct && rest.distinct
  | .trailing _ shape => shape.distinct

end

mutual

/-- The decimals in a value. -/
def Shape.decimals : Shape α → α → List Decimal
  | .decimal, d => [d]
  | .list item, xs => xs.flatMap item.decimals
  | .record _ fields _ unpack _ _, a => fields.decimals (unpack a)
  | .text, _ => []
  | .int32, _ => []
  | .uint32, _ => []
  | .timestamp, _ => []
  | .choice _, _ => []

def Fields.decimals : Fields σ → σ → List Decimal
  | .nil, _ => []
  | .required _ shape rest, (b, s) => shape.decimals b ++ rest.decimals s
  | .optional _ shape rest, (b?, s) => b?.toList.flatMap shape.decimals ++ rest.decimals s
  | .trailing _ shape, (b?, ()) => b?.toList.flatMap shape.decimals

end

mutual

def Shape.exact : Shape α → Bool
  | .decimal => false
  | .list item => item.exact
  | .record _ fields _ _ _ _ => fields.exact
  | .text | .int32 | .uint32 | .timestamp | .choice _ => true

def Fields.exact : Fields σ → Bool
  | .nil => true
  | .required _ shape rest => shape.exact && rest.exact
  | .optional _ shape rest => shape.exact && rest.exact
  | .trailing _ shape => shape.exact

end

mutual

/-- How many levels the values of a shape nest. -/
def Shape.depth : Shape α → Nat
  | .list item => item.depth + 1
  | .record _ fields _ _ _ _ => fields.depth + 1
  | .text | .int32 | .uint32 | .timestamp | .decimal | .choice _ => 0

def Fields.depth : Fields σ → Nat
  | .nil => 0
  | .required _ shape rest => max shape.depth rest.depth
  | .optional _ shape rest => max shape.depth rest.depth
  | .trailing _ shape => shape.depth

end

mutual

theorem Shape.decimals_eq_nil : (s : Shape α) → s.exact = true → (a : α) → s.decimals a = []
  | .text, _, _ | .int32, _, _ | .uint32, _, _ | .timestamp, _, _ | .choice _, _, _ => rfl
  | .list item, h, xs => List.flatMap_eq_nil_iff.2 fun x _ => item.decimals_eq_nil h x
  | .record _ fields _ unpack _ _, h, a => fields.decimals_eq_nil h (unpack a)

theorem Fields.decimals_eq_nil : (f : Fields σ) → f.exact = true → (s : σ) → f.decimals s = []
  | .nil, _, _ => rfl
  | .required _ shape rest, h, (b, s) => by
    simp only [Fields.exact, Bool.and_eq_true] at h
    rw [Fields.decimals, shape.decimals_eq_nil h.1 b, rest.decimals_eq_nil h.2 s, List.append_nil]
  | .optional _ shape rest, h, (b?, s) => by
    simp only [Fields.exact, Bool.and_eq_true] at h
    rw [Fields.decimals, rest.decimals_eq_nil h.2 s, List.append_nil]
    exact List.flatMap_eq_nil_iff.2 fun b _ => shape.decimals_eq_nil h.1 b
  | .trailing _ shape, h, (b?, ()) =>
    List.flatMap_eq_nil_iff.2 fun b _ => shape.decimals_eq_nil h b

end

theorem Shape.optionally_decode_encode (s : Shape α) (a : α) :
    optionally s.decode (s.encode a) = (s.decode (s.encode a)).map some := by
  cases s <;> rfl

theorem pairUp_eq_ok_iff {x : Except Fault β} {y : Except Fault σ} {b : β} {s : σ} :
    pairUp x y = .ok (b, s) ↔ x = .ok b ∧ y = .ok s := by
  cases x <;> cases y <;> simp [pairUp]

theorem int?_ofInt (i : Int) : (Numeral.ofInt i).int? = some i := by
  rw [Numeral.int?, Numeral.ofInt, if_neg (by simp)]
  split <;> simp only [decide_eq_true_eq] at * <;> congr 1 <;> omega

theorem readInt32_ofInt (i : Int32) : readInt32 (.ofInt i.toInt) = .ok i := by
  have hlo := i.le_toInt
  have hhi := i.toInt_lt
  rw [Json.ofInt, readInt32, Numeral.int32?, int?_ofInt, Option.filter_some, if_pos (by simp; omega)]
  exact congrArg Except.ok (Int32.ofInt_toInt i)

theorem readUInt32_ofNat (n : UInt32) : readUInt32 (.ofNat n.toNat) = .ok n := by
  have hnat : (Numeral.ofNat n.toNat).nat? = some n.toNat := rfl
  rw [Json.ofNat, readUInt32, Numeral.uint32?, hnat, Option.filter_some,
    if_pos (decide_eq_true n.toNat_lt)]
  exact congrArg Except.ok (UInt32.ofNat_toNat)

theorem Fields.keys_encode_sublist : (f : Fields σ) → (s : σ) →
    ((f.encode s).map Prod.fst).Sublist f.names
  | .nil, _ => .slnil
  | .required name _ rest, (_, s) => (rest.keys_encode_sublist s).cons_cons name
  | .optional name _ rest, (some _, s) => (rest.keys_encode_sublist s).cons_cons name
  | .optional name _ rest, (none, s) => (rest.keys_encode_sublist s).cons name
  | .trailing _ _, (some _, ()) => .refl _
  | .trailing _ _, (none, ()) => List.nil_sublist _

theorem Fields.lookup_encode_eq_none (f : Fields σ) (s : σ) {name : String} (h : name ∉ f.names) :
    (f.encode s).lookup name = none :=
  Json.lookup_eq_none fun hmem => h ((f.keys_encode_sublist s).subset hmem)

theorem Fields.lookup_foldl_encode (f : Fields σ) (s : σ) (h : f.names.Nodup) (name : String) :
    ((f.encode s).foldl (fun ms m => Json.insertMember m.1 m.2 ms) []).lookup name =
      (f.encode s).lookup name := by
  rw [Json.lookup_foldl_insertMember (h.sublist (f.keys_encode_sublist s)), List.lookup_nil,
    Option.or_none]

section Lookup

variable {name n : String} {shape : Shape β} {rest : Fields σ}

theorem Fields.lookup_required (b : β) (s : σ) :
    ((Fields.required name shape rest).encode (b, s)).lookup name = some (shape.encode b) := by
  rw [Fields.encode, Json.lookup_cons, if_pos rfl]

theorem Fields.lookup_optional (hn : (name :: rest.names).Nodup) (b? : Option β) (s : σ) :
    ((Fields.optional name shape rest).encode (b?, s)).lookup name = b?.map shape.encode := by
  cases b? with
  | none => exact rest.lookup_encode_eq_none s (List.nodup_cons.1 hn).1
  | some b => rw [Fields.encode, Json.lookup_cons, if_pos rfl, Option.map_some]

theorem Fields.lookup_trailing (b? : Option β) :
    ((Fields.trailing name shape).encode (b?, ())).lookup name = b?.map shape.encode := by
  cases b? with
  | none => rfl
  | some b => rw [Fields.encode, Json.lookup_cons, if_pos rfl, Option.map_some]

variable (hn : (name :: rest.names).Nodup) (hmem : n ∈ rest.names)
include hn hmem

theorem Fields.ne_of_mem_names : n ≠ name := fun he => (List.nodup_cons.1 hn).1 (he ▸ hmem)

theorem Fields.lookup_required_rest (b : β) (s : σ) :
    ((Fields.required name shape rest).encode (b, s)).lookup n = (rest.encode s).lookup n := by
  rw [Fields.encode, Json.lookup_cons, if_neg (ne_of_mem_names hn hmem)]

theorem Fields.lookup_optional_rest (b? : Option β) (s : σ) :
    ((Fields.optional name shape rest).encode (b?, s)).lookup n = (rest.encode s).lookup n := by
  cases b? with
  | none => rfl
  | some b => rw [Fields.encode, Json.lookup_cons, if_neg (ne_of_mem_names hn hmem)]

end Lookup

theorem mapM_map_eq_ok_iff {α : Type} {f : α → Json} {g : Json → Except Mismatch α} (xs : List α) :
    (xs.map f).mapM g = .ok xs ↔ ∀ x ∈ xs, g (f x) = .ok x := by
  induction xs with
  | nil => simp [pure, Except.pure]
  | cons x xs ih =>
    rw [List.map_cons, List.mapM_cons, List.forall_mem_cons, ← ih]
    simp only [bind_eq_ok, pure, Except.pure, Except.ok.injEq, List.cons.injEq]
    exact ⟨fun ⟨_, hx, _, hxs, he, hes⟩ => ⟨he ▸ hx, hes ▸ hxs⟩,
      fun ⟨hx, hxs⟩ => ⟨x, hx, xs, hxs, rfl, rfl⟩⟩

mutual

/-- A value is read back just when all its decimals are. -/
theorem Shape.decode_encode_iff : (s : Shape α) → s.distinct = true → (a : α) →
    (s.decode (s.encode a) = .ok a ↔ ∀ d ∈ s.decimals a, d.Plain)
  | .text, _, _ => by simp [Shape.decode, Shape.encode, Shape.decimals, readText]
  | .int32, _, i => by
    simp [Shape.decode, Shape.encode, Shape.decimals, readInt32_ofInt]
  | .uint32, _, n => by
    simp [Shape.decode, Shape.encode, Shape.decimals, readUInt32_ofNat]
  | .timestamp, _, t => by
    simp [Shape.decode, Shape.encode, Shape.decimals, readTimestamp, Timestamp.ofString_render,
      Except.mapError]
  | .decimal, _, d => by
    simp [Shape.decode, Shape.encode, Shape.decimals, readDecimal, mapError_eq_ok_iff,
      d.ofNumeral_toNumeral_iff]
  | .choice e, _, a => by
    simp [Shape.decode, Shape.encode, Shape.decimals, Enumeration.decode, Enumeration.read]
  | .list item, h, xs => by
    rw [Shape.encode, Shape.decode, mapM_map_eq_ok_iff, Shape.decimals]
    simp only [item.decode_encode_iff h, List.mem_flatMap]
    exact ⟨fun hx d ⟨x, hmem, hd⟩ => hx x hmem d hd, fun hd x hmem d hx => hd d ⟨x, hmem, hx⟩⟩
  | .record name fields pack unpack hpu hup, h, a => by
    simp only [Shape.distinct, Bool.and_eq_true, decide_eq_true_eq] at h
    have hfields := fields.decodeMembers_iff h.2 h.1 (unpack a) fun n _ =>
      fields.lookup_foldl_encode (unpack a) h.1 n
    rw [Shape.decimals, ← hfields, Shape.encode, Json.ofMembers, Shape.decode]
    split
    · next s hs =>
      rw [hs, Except.ok.injEq, Except.ok.injEq]
      exact ⟨fun he => by rw [← he, hup], fun he => by rw [he, hpu]⟩
    · next hf => simp [hf]

theorem Fields.decodeMembers_iff : (f : Fields σ) → f.distinct = true → f.names.Nodup → (s : σ) →
    {members : List (String × Json)} →
    (∀ name ∈ f.names, members.lookup name = (f.encode s).lookup name) →
    (f.decodeMembers members = .ok s ↔ ∀ d ∈ f.decimals s, d.Plain)
  | .nil, _, _, _, _, _ => by simp [Fields.decodeMembers, Fields.decimals]
  | .required name shape rest, h, hn, (b, s), members, hm => by
    simp only [Fields.distinct, Bool.and_eq_true] at h
    have hb := (hm name List.mem_cons_self).trans (Fields.lookup_required b s)
    have hrest := rest.decodeMembers_iff h.2 (List.nodup_cons.1 hn).2 s fun n hmem =>
      (hm n (List.mem_cons_of_mem _ hmem)).trans (Fields.lookup_required_rest hn hmem b s)
    simp only [Fields.decodeMembers, Fields.decimals, hb, pairUp_eq_ok_iff, mapError_eq_ok_iff, hrest,
      shape.decode_encode_iff h.1 b, List.forall_mem_append]
  | .optional name shape rest, h, hn, (b?, s), members, hm => by
    simp only [Fields.distinct, Bool.and_eq_true] at h
    have hb := (hm name List.mem_cons_self).trans (Fields.lookup_optional hn b? s)
    have hrest := rest.decodeMembers_iff h.2 (List.nodup_cons.1 hn).2 s fun n hmem =>
      (hm n (List.mem_cons_of_mem _ hmem)).trans (Fields.lookup_optional_rest hn hmem b? s)
    simp only [Fields.decodeMembers, Fields.decimals, hb, pairUp_eq_ok_iff, hrest]
    cases b? with
    | none => simp
    | some b => simp [mapError_eq_ok_iff, shape.optionally_decode_encode, map_eq_ok_iff,
        shape.decode_encode_iff h.1 b, or_imp, forall_and]
  | .trailing name shape, h, _, (b?, ()), members, hm => by
    have hb := (hm name List.mem_cons_self).trans (Fields.lookup_trailing b?)
    simp only [Fields.decodeMembers, Fields.decimals, hb]
    cases b? with
    | none => simp
    | some b => simp [mapError_eq_ok_iff, shape.optionally_decode_encode, map_eq_ok_iff,
        shape.decode_encode_iff h b]

end

theorem Shape.encode_injective_of_exact {s : Shape α} (h : s.distinct = true)
    (hexact : s.exact = true) : Function.Injective s.encode := by
  intro a a' he
  have hread (a : α) : s.decode (s.encode a) = .ok a :=
    (s.decode_encode_iff h a).2 (by simp [s.decimals_eq_nil hexact a])
  exact Except.ok.inj ((hread a).symm.trans (he ▸ hread a'))

mutual

theorem Shape.encode_injective : (s : Shape α) → s.distinct = true → Function.Injective s.encode
  | .text, h => Shape.encode_injective_of_exact h rfl
  | .int32, h => Shape.encode_injective_of_exact h rfl
  | .uint32, h => Shape.encode_injective_of_exact h rfl
  | .timestamp, h => Shape.encode_injective_of_exact h rfl
  | .choice _, h => Shape.encode_injective_of_exact h rfl
  | .decimal, _ => fun _ _ he => Decimal.toNumeral_injective (Json.number.inj he)
  | .list item, h => fun _ _ he =>
    List.map_injective_iff.2 (item.encode_injective h) (Json.array.inj he)
  | .record _ fields pack unpack hpu _, h => by
    simp only [Shape.distinct, Bool.and_eq_true, decide_eq_true_eq] at h
    intro a a' he
    have hs : unpack a = unpack a' := fields.encode_injective h.2 h.1 fun n _ => by
      rw [← fields.lookup_foldl_encode _ h.1, ← fields.lookup_foldl_encode _ h.1]
      exact congrArg (List.lookup n) (Json.object.inj he)
    rw [← hpu a, ← hpu a', hs]

theorem Fields.encode_injective : (f : Fields σ) → f.distinct = true → f.names.Nodup → {s s' : σ} →
    (∀ name ∈ f.names, (f.encode s).lookup name = (f.encode s').lookup name) → s = s'
  | .nil, _, _, _, _, _ => rfl
  | .required name shape rest, h, hn, (b, s), (b', s'), he => by
    simp only [Fields.distinct, Bool.and_eq_true] at h
    have hb := he name List.mem_cons_self
    rw [Fields.lookup_required, Fields.lookup_required] at hb
    have hs : s = s' := rest.encode_injective h.2 (List.nodup_cons.1 hn).2 fun n hmem => by
      have hrest := he n (List.mem_cons_of_mem _ hmem)
      rwa [Fields.lookup_required_rest hn hmem, Fields.lookup_required_rest hn hmem] at hrest
    rw [shape.encode_injective h.1 (Option.some.inj hb), hs]
  | .optional name shape rest, h, hn, (b?, s), (b'?, s'), he => by
    simp only [Fields.distinct, Bool.and_eq_true] at h
    have hb := he name List.mem_cons_self
    rw [Fields.lookup_optional hn, Fields.lookup_optional hn] at hb
    have hs : s = s' := rest.encode_injective h.2 (List.nodup_cons.1 hn).2 fun n hmem => by
      have hrest := he n (List.mem_cons_of_mem _ hmem)
      rwa [Fields.lookup_optional_rest hn hmem, Fields.lookup_optional_rest hn hmem] at hrest
    rw [Option.map_injective (shape.encode_injective h.1) hb, hs]
  | .trailing name shape, h, _, (b?, ()), (b'?, ()), he => by
    have hb := he name List.mem_cons_self
    rw [Fields.lookup_trailing, Fields.lookup_trailing] at hb
    rw [Option.map_injective (shape.encode_injective h) hb]

end

mutual

/-- Whether no field has the key that is kept for numbers. -/
def Shape.unmarked : Shape α → Bool
  | .list item => item.unmarked
  | .record _ fields _ _ _ _ => fields.unmarked
  | _ => true

def Fields.unmarked : Fields σ → Bool
  | .nil => true
  | .required name shape rest | .optional name shape rest =>
    name != Json.numberKey && shape.unmarked && rest.unmarked
  | .trailing name shape => name != Json.numberKey && shape.unmarked

end

mutual

theorem Shape.unmarked_encode : (s : Shape α) → s.unmarked = true → (a : α) →
    (s.encode a).Unmarked
  | .text, _, s => .string _
  | .int32, _, i => .number _
  | .uint32, _, n => .number _
  | .timestamp, _, t => .string _
  | .decimal, _, d => .number _
  | .choice e, _, a => .string _
  | .list item, h, xs => .array fun j hj => by
    obtain ⟨x, -, rfl⟩ := List.mem_map.1 hj
    exact item.unmarked_encode h x
  | .record _ fields _ unpack _ _, h, a =>
    Json.unmarked_ofMembers (fields.unmarked_encode h (unpack a))

theorem Fields.unmarked_encode : (f : Fields σ) → f.unmarked = true → (s : σ) →
    ∀ m ∈ f.encode s, m.1 ≠ Json.numberKey ∧ m.2.Unmarked
  | .nil, _, _ => fun _ hm => (nomatch hm)
  | .required name shape rest, h, (b, s) => by
    simp only [Fields.unmarked, Bool.and_eq_true, bne_iff_ne] at h
    exact List.forall_mem_cons.2
      ⟨⟨h.1.1, shape.unmarked_encode h.1.2 b⟩, rest.unmarked_encode h.2 s⟩
  | .optional name shape rest, h, (some b, s) => by
    simp only [Fields.unmarked, Bool.and_eq_true, bne_iff_ne] at h
    exact List.forall_mem_cons.2
      ⟨⟨h.1.1, shape.unmarked_encode h.1.2 b⟩, rest.unmarked_encode h.2 s⟩
  | .optional _ _ rest, h, (none, s) => by
    simp only [Fields.unmarked, Bool.and_eq_true] at h
    exact rest.unmarked_encode h.2 s
  | .trailing name shape, h, (some b, ()) => by
    simp only [Fields.unmarked, Bool.and_eq_true, bne_iff_ne] at h
    exact List.forall_mem_singleton.2 ⟨h.1, shape.unmarked_encode h.2 b⟩
  | .trailing _ _, _, (none, ()) => fun _ hm => (nomatch hm)

end

mutual

theorem Shape.within_encode : (s : Shape α) → (a : α) → Json.Within s.depth (s.encode a)
  | .text, s => .string _ s
  | .int32, i => .number _ _
  | .uint32, n => .number _ _
  | .timestamp, t => .string _ _
  | .decimal, d => .number _ _
  | .choice e, a => .string _ _
  | .list item, xs => .array fun j hj => by
    obtain ⟨x, -, rfl⟩ := List.mem_map.1 hj
    exact item.within_encode x
  | .record _ fields _ unpack _ _, a => Json.within_ofMembers (fields.within_encode (unpack a))

theorem Fields.within_encode : (f : Fields σ) → (s : σ) → ∀ m ∈ f.encode s, Json.Within f.depth m.2
  | .nil, _ => fun _ hm => (nomatch hm)
  | .required _ shape rest, (b, s) => List.forall_mem_cons.2
    ⟨(shape.within_encode b).mono (Nat.le_max_left ..),
      fun m hm => (rest.within_encode s m hm).mono (Nat.le_max_right ..)⟩
  | .optional _ shape rest, (some b, s) => List.forall_mem_cons.2
    ⟨(shape.within_encode b).mono (Nat.le_max_left ..),
      fun m hm => (rest.within_encode s m hm).mono (Nat.le_max_right ..)⟩
  | .optional _ _ rest, (none, s) =>
    fun m hm => (rest.within_encode s m hm).mono (Nat.le_max_right ..)
  | .trailing _ shape, (some b, ()) => List.forall_mem_singleton.2 (shape.within_encode b)
  | .trailing _ _, (none, ()) => fun _ hm => (nomatch hm)

end

end CentralSystem
