import CentralSystem.Json.Text
import CentralSystem.Proofs.Json.Token
import Mathlib.Data.String.Basic

namespace CentralSystem.Json

/-- A value that nests at most this many levels deep, each of its objects in order: one member a key,
by increasing key. -/
inductive Within : Nat → Json → Prop
  | null (n : Nat) : Within n .null
  | bool (n : Nat) (b : Bool) : Within n (.bool b)
  | number (n : Nat) (x : Numeral) : Within n (.number x)
  | string (n : Nat) (s : String) : Within n (.string s)
  | array {n : Nat} {items : List Json} (h : ∀ j ∈ items, Within n j) : Within (n + 1) (.array items)
  | object {n : Nat} {members : List (String × Json)}
      (hs : members.Pairwise fun m m' => m.1 < m'.1) (h : ∀ m ∈ members, Within n m.2) :
      Within (n + 1) (.object members)

inductive Unmarked : Json → Prop
  | null : Unmarked .null
  | bool (b : Bool) : Unmarked (.bool b)
  | number (x : Numeral) : Unmarked (.number x)
  | string (s : String) : Unmarked (.string s)
  | array {items : List Json} (h : ∀ j ∈ items, Unmarked j) : Unmarked (.array items)
  | object {members : List (String × Json)} (hfirst : ∀ m ∈ members.head?, m.1 ≠ numberKey)
      (h : ∀ m ∈ members, Unmarked m.2) : Unmarked (.object members)

/-- The number that an object stands for, by what is behind the key that is kept for numbers: a text
that spells the number, and no other member. -/
def markedNumber? : Json → List (String × Json) → Option Numeral
  | .string s, [] => NumberScan.read? s.toList
  | _, _ => none

mutual

/-- What the text of a value is read as: the same value, but for the objects in it that are taken for
numbers. -/
def reread? : Json → Option Json
  | .array items => (rereadItems? items).map .array
  | .object [] => some (.object [])
  | .object ((key, value) :: members) =>
    if key = numberKey then (markedNumber? value members).map .number
    else do
      let value ← reread? value
      let members ← rereadMembers? members
      return .object ((key, value) :: members)
  | j => some j

def rereadItems? : List Json → Option (List Json)
  | [] => some []
  | j :: rest => do
    let j ← reread? j
    let rest ← rereadItems? rest
    return j :: rest

def rereadMembers? : List (String × Json) → Option (List (String × Json))
  | [] => some []
  | (key, j) :: rest => do
    let j ← reread? j
    let rest ← rereadMembers? rest
    return (key, j) :: rest

end

mutual

theorem reread?_eq_self_iff : (j : Json) → (reread? j = some j ↔ Unmarked j)
  | .null => iff_of_true rfl .null
  | .bool b => iff_of_true rfl (.bool b)
  | .number x => iff_of_true rfl (.number x)
  | .string s => iff_of_true rfl (.string s)
  | .array items => by
    have hitems := rereadItems?_eq_self_iff items
    rw [reread?, Option.map_eq_some_iff]
    constructor
    · rintro ⟨items', hitems', he⟩
      obtain rfl := Json.array.inj he
      exact .array (hitems.1 hitems')
    · rintro (_ | _ | _ | _ | h)
      exact ⟨items, hitems.2 h, rfl⟩
  | .object [] => iff_of_true (by rw [reread?]) (.object (by simp) (by simp))
  | .object ((key, value) :: members) => by
    have hvalue := reread?_eq_self_iff value
    have hmembers := rereadMembers?_eq_self_iff members
    rw [reread?]
    constructor
    · intro h
      split at h
      · obtain ⟨n, -, hn⟩ := Option.map_eq_some_iff.1 h
        cases hn
      · next hkey =>
        obtain ⟨value', hv, h⟩ := Option.bind_eq_some_iff.1 h
        obtain ⟨members', hm, h⟩ := Option.bind_eq_some_iff.1 h
        obtain ⟨⟨-, rfl⟩, rfl⟩ : (key = key ∧ value' = value) ∧ members' = members := by
          simpa using h
        exact .object (by simpa using hkey)
          (List.forall_mem_cons.2 ⟨hvalue.1 hv, hmembers.1 hm⟩)
    · rintro (_ | _ | _ | _ | _ | ⟨hfirst, h⟩)
      obtain ⟨hv, hm⟩ := List.forall_mem_cons.1 h
      rw [if_neg (hfirst _ rfl), hvalue.2 hv, hmembers.2 hm]
      rfl

theorem rereadItems?_eq_self_iff : (items : List Json) →
    (rereadItems? items = some items ↔ ∀ j ∈ items, Unmarked j)
  | [] => iff_of_true rfl (by simp)
  | j :: rest => by
    rw [List.forall_mem_cons, ← reread?_eq_self_iff j, ← rereadItems?_eq_self_iff rest,
      rereadItems?]
    constructor
    · intro h
      obtain ⟨j', hj, h⟩ := Option.bind_eq_some_iff.1 h
      obtain ⟨rest', hrest, h⟩ := Option.bind_eq_some_iff.1 h
      obtain ⟨rfl, rfl⟩ := List.cons.inj (Option.some.inj h)
      exact ⟨hj, hrest⟩
    · rintro ⟨hj, hrest⟩
      rw [hj, hrest]
      rfl

theorem rereadMembers?_eq_self_iff : (members : List (String × Json)) →
    (rereadMembers? members = some members ↔ ∀ m ∈ members, Unmarked m.2)
  | [] => iff_of_true rfl (by simp)
  | (key, j) :: rest => by
    rw [List.forall_mem_cons, ← reread?_eq_self_iff j, ← rereadMembers?_eq_self_iff rest,
      rereadMembers?]
    constructor
    · intro h
      obtain ⟨j', hj, h⟩ := Option.bind_eq_some_iff.1 h
      obtain ⟨rest', hrest, h⟩ := Option.bind_eq_some_iff.1 h
      obtain ⟨hm, rfl⟩ := List.cons.inj (Option.some.inj h)
      obtain ⟨-, rfl⟩ := Prod.mk.inj hm
      exact ⟨hj, hrest⟩
    · rintro ⟨hj, hrest⟩
      rw [hj, hrest]
      rfl

end

mutual

theorem unmarked_of_reread? : {j j' : Json} → reread? j = some j' → Unmarked j'
  | .null, _, h => Option.some.inj h ▸ .null
  | .bool b, _, h => Option.some.inj h ▸ .bool b
  | .number x, _, h => Option.some.inj h ▸ .number x
  | .string s, _, h => Option.some.inj h ▸ .string s
  | .array items, _, h => by
    rw [reread?] at h
    obtain ⟨items', hitems, rfl⟩ := Option.map_eq_some_iff.1 h
    exact .array (unmarked_of_rereadItems? hitems)
  | .object [], _, h => by
    rw [reread?] at h
    exact Option.some.inj h ▸ .object (by simp) (by simp)
  | .object ((key, value) :: members), _, h => by
    rw [reread?] at h
    split at h
    · obtain ⟨n, -, rfl⟩ := Option.map_eq_some_iff.1 h
      exact .number n
    · next hkey =>
      obtain ⟨value', hv, h⟩ := Option.bind_eq_some_iff.1 h
      obtain ⟨members', hm, h⟩ := Option.bind_eq_some_iff.1 h
      obtain rfl := Option.some.inj h
      exact .object (by simpa using hkey)
        (List.forall_mem_cons.2 ⟨unmarked_of_reread? hv, unmarked_of_rereadMembers? hm⟩)

theorem unmarked_of_rereadItems? : {items items' : List Json} →
    rereadItems? items = some items' → ∀ j ∈ items', Unmarked j
  | [], _, h => Option.some.inj h ▸ by simp
  | j :: rest, _, h => by
    rw [rereadItems?] at h
    obtain ⟨j', hj, h⟩ := Option.bind_eq_some_iff.1 h
    obtain ⟨rest', hrest, h⟩ := Option.bind_eq_some_iff.1 h
    obtain rfl := Option.some.inj h
    exact List.forall_mem_cons.2 ⟨unmarked_of_reread? hj, unmarked_of_rereadItems? hrest⟩

theorem unmarked_of_rereadMembers? : {members members' : List (String × Json)} →
    rereadMembers? members = some members' → ∀ m ∈ members', Unmarked m.2
  | [], _, h => Option.some.inj h ▸ by simp
  | (key, j) :: rest, _, h => by
    rw [rereadMembers?] at h
    obtain ⟨j', hj, h⟩ := Option.bind_eq_some_iff.1 h
    obtain ⟨rest', hrest, h⟩ := Option.bind_eq_some_iff.1 h
    obtain rfl := Option.some.inj h
    exact List.forall_mem_cons.2 ⟨unmarked_of_reread? hj, unmarked_of_rereadMembers? hrest⟩

end

theorem Within.mono {m n : Nat} {j : Json} (h : Within m j) (hmn : m ≤ n) : Within n j := by
  induction h generalizing n with
  | null => exact .null n
  | bool _ b => exact .bool n b
  | number _ x => exact .number n x
  | string _ s => exact .string n s
  | array _ ih =>
    obtain ⟨n, rfl⟩ : ∃ k, n = k + 1 := ⟨n - 1, by omega⟩
    exact .array fun j hj => ih j hj (by omega)
  | object hs _ ih =>
    obtain ⟨n, rfl⟩ : ∃ k, n = k + 1 := ⟨n - 1, by omega⟩
    exact .object hs fun m hm => ih m hm (by omega)

section Order

variable {ms : List (String × Json)}

abbrev Sorted (ms : List (String × Json)) : Prop := ms.Pairwise fun m m' => m.1 < m'.1

theorem insertMember_of_lt {k : String} (v : Json) (h : ∀ m ∈ ms, m.1 < k) :
    insertMember k v ms = ms ++ [(k, v)] := by
  induction ms with
  | nil => rfl
  | cons m rest ih =>
    obtain ⟨k', v'⟩ := m
    have hlt : k' < k := h (k', v') List.mem_cons_self
    rw [insertMember, if_neg (lt_asymm hlt), if_neg (ne_of_gt hlt),
      ih fun m hm => h m (List.mem_cons_of_mem _ hm)]
    rfl

theorem lt_of_pairwise_keys {k : String} {later : List String}
    (h : (ms.map Prod.fst ++ k :: later).Pairwise (· < ·)) : ∀ m ∈ ms, m.1 < k := fun m hm =>
  (List.pairwise_append.1 h).2.2 m.1 (List.mem_map_of_mem hm) k List.mem_cons_self

theorem mem_of_mem_insertMember {k : String} {v : Json} {m : String × Json}
    (h : m ∈ insertMember k v ms) : m = (k, v) ∨ m ∈ ms := by
  induction ms with
  | nil => simpa [insertMember] using h
  | cons m' rest ih =>
    rw [insertMember] at h
    split_ifs at h <;> simp only [List.mem_cons] at h ⊢
    · exact h
    · exact h.imp_right .inr
    · exact h.elim (fun he => .inr (.inl he)) fun hm => (ih hm).imp_right .inr

theorem sorted_insertMember {k : String} {v : Json} (h : Sorted ms) :
    Sorted (insertMember k v ms) := by
  induction ms with
  | nil => simp [insertMember]
  | cons m' rest ih =>
    obtain ⟨hlt, hrest⟩ := List.pairwise_cons.1 h
    rw [insertMember]
    split_ifs with h₁ h₂
    · refine List.pairwise_cons.2 ⟨fun m hm => ?_, h⟩
      rcases List.mem_cons.1 hm with rfl | hm
      · exact h₁
      · exact lt_trans h₁ (hlt m hm)
    · subst h₂
      exact List.pairwise_cons.2 ⟨hlt, hrest⟩
    · refine List.pairwise_cons.2 ⟨fun m hm => ?_, ih hrest⟩
      rcases mem_of_mem_insertMember hm with rfl | hm
      · exact lt_of_le_of_ne (not_lt.1 h₁) (Ne.symm h₂)
      · exact hlt m hm

theorem within_insertMember {n : Nat} {k : String} {v : Json} (hs : Sorted ms)
    (hm : ∀ m ∈ ms, Within n m.2) (hv : Within n v) :
    Sorted (insertMember k v ms) ∧ ∀ m ∈ insertMember k v ms, Within n m.2 := by
  refine ⟨sorted_insertMember hs, fun m hmem => ?_⟩
  rcases mem_of_mem_insertMember hmem with rfl | hmem
  · exact hv
  · exact hm m hmem

theorem within_ofMembers {n : Nat} (h : ∀ m ∈ ms, Within n m.2) : Within (n + 1) (.ofMembers ms) := by
  have hfold (into : List (String × Json)) (hs : Sorted into) (hinto : ∀ m ∈ into, Within n m.2) :
      Within (n + 1) (.object (ms.foldl (fun ms m => insertMember m.1 m.2 ms) into)) := by
    induction ms generalizing into with
    | nil => exact .object hs hinto
    | cons m rest ih =>
      obtain ⟨hs', hinto'⟩ := within_insertMember hs hinto (h m List.mem_cons_self)
      exact ih (fun m hm => h m (List.mem_cons_of_mem _ hm)) _ hs' hinto'
  exact hfold [] .nil (by simp)

theorem unmarked_ofMembers (h : ∀ m ∈ ms, m.1 ≠ numberKey ∧ Unmarked m.2) :
    Unmarked (.ofMembers ms) := by
  have hfold (into : List (String × Json)) (hinto : ∀ m ∈ into, m.1 ≠ numberKey ∧ Unmarked m.2) :
      ∀ m ∈ ms.foldl (fun ms m => insertMember m.1 m.2 ms) into,
        m.1 ≠ numberKey ∧ Unmarked m.2 := by
    induction ms generalizing into with
    | nil => exact hinto
    | cons m rest ih =>
      refine ih (fun m hm => h m (List.mem_cons_of_mem _ hm)) _ fun m' hm' => ?_
      rcases mem_of_mem_insertMember hm' with rfl | hm'
      · exact h m List.mem_cons_self
      · exact hinto m' hm'
  exact .object (fun m hm => (hfold [] (by simp) m (List.mem_of_mem_head? hm)).1)
    fun m hm => (hfold [] (by simp) m hm).2

end Order

section Tokens

theorem parted_cons {ts : List Token} {t : Token} (ht : t.isNumber = false)
    (hts : ts.IsChain Token.Parted) : (t :: ts).IsChain Token.Parted :=
  List.isChain_cons.2 ⟨fun _ _ hnum => absurd hnum (by simp [ht]), hts⟩

theorem parted_append {ts us : List Token} (hts : ts.IsChain Token.Parted)
    (hus : us.IsChain Token.Parted) (hu : ∀ u ∈ us.head?, u.isNumber = false) :
    (ts ++ us).IsChain Token.Parted :=
  hts.append hus fun _ _ u hmem _ => hu u hmem

theorem moreItems_head (items : List Json) :
    ∀ t ∈ (moreItems items).head?, t.isNumber = false := by
  cases items <;> simp [moreItems, Token.isNumber]

theorem moreMembers_head (members : List (String × Json)) :
    ∀ t ∈ (moreMembers members).head?, t.isNumber = false := by
  cases members <;> simp [moreMembers, Token.isNumber]

theorem parted_moreItems {items : List Json} (h : ∀ j ∈ items, j.tokens.IsChain Token.Parted) :
    (moreItems items).IsChain Token.Parted := by
  induction items with
  | nil => exact .singleton _
  | cons j rest ih =>
    rw [moreItems]
    exact parted_cons rfl (parted_append (h j List.mem_cons_self)
      (ih fun j hj => h j (List.mem_cons_of_mem _ hj)) (moreItems_head rest))

theorem parted_moreMembers {members : List (String × Json)}
    (h : ∀ m ∈ members, m.2.tokens.IsChain Token.Parted) :
    (moreMembers members).IsChain Token.Parted := by
  induction members with
  | nil => exact .singleton _
  | cons m rest ih =>
    rw [moreMembers]
    exact parted_cons rfl (parted_cons rfl (parted_cons rfl (parted_append (h m List.mem_cons_self)
      (ih fun m hm => h m (List.mem_cons_of_mem _ hm)) (moreMembers_head rest))))

theorem Within.parted {n : Nat} {j : Json} (h : Within n j) : j.tokens.IsChain Token.Parted := by
  induction h with
  | null => exact .singleton _
  | bool => exact .singleton _
  | number => exact .singleton _
  | string => exact .singleton _
  | @array _ items _ ih =>
    cases items with
    | nil => exact parted_cons rfl (.singleton _)
    | cons j rest =>
      rw [tokens]
      exact parted_cons rfl (parted_append (ih j List.mem_cons_self)
        (parted_moreItems fun j hj => ih j (List.mem_cons_of_mem _ hj)) (moreItems_head rest))
  | @object _ members _ _ ih =>
    cases members with
    | nil => exact parted_cons rfl (.singleton _)
    | cons m rest =>
      rw [tokens]
      exact parted_cons rfl (parted_cons rfl (parted_cons rfl (parted_append
        (ih m List.mem_cons_self) (parted_moreMembers fun m hm => ih m (List.mem_cons_of_mem _ hm))
        (moreMembers_head rest))))

end Tokens

namespace Cursor

def feedAll? (c : Cursor) (ts : List Token) : Option Cursor := ts.foldlM feed? c

@[simp] theorem feedAll?_nil (c : Cursor) : c.feedAll? [] = some c := rfl

@[simp] theorem feedAll?_cons (c : Cursor) (t : Token) (ts : List Token) :
    c.feedAll? (t :: ts) = (c.feed? t).bind (·.feedAll? ts) := by
  rw [feedAll?, List.foldlM_cons]
  rfl

theorem feedAll?_append (c : Cursor) (ts us : List Token) :
    c.feedAll? (ts ++ us) = (c.feedAll? ts).bind (·.feedAll? us) := by
  rw [feedAll?, List.foldlM_append]
  rfl

/-- What the tokens of a value are read as comes on top of what is open. -/
def Takes (stack : List Container) (j : Json) : Prop :=
  feedAll? (.value stack) j.tokens = j.reread?.map (.done · stack)

theorem feedAll?_firstItem (stack : List Container) (j : Json) :
    feedAll? (.firstItem stack) j.tokens = feedAll? (.value (.array [] :: stack)) j.tokens := by
  cases j with
  | array items => cases items <;> rfl
  | object members => cases members <;> rfl
  | _ => rfl

theorem feedAll?_moreItems {stack : List Container} (items done : List Json) (j : Json)
    (h : ∀ i ∈ items, ∀ done, Takes (.array done :: stack) i) :
    feedAll? (.done j (.array done :: stack)) (moreItems items) =
      (rereadItems? items).map fun items => .done (.array ((j :: done).reverse ++ items)) stack := by
  induction items generalizing done j with
  | nil =>
    rw [rereadItems?, Option.map_some, List.append_nil]
    rfl
  | cons i rest ih =>
    have hcomma : feed? (.done j (.array done :: stack)) .comma =
        some (.value (.array (j :: done) :: stack)) := rfl
    have hi : feedAll? (.value (.array (j :: done) :: stack)) i.tokens = _ :=
      h i List.mem_cons_self (j :: done)
    rw [moreItems, feedAll?_cons, hcomma, Option.bind_some, feedAll?_append, hi, rereadItems?]
    cases hread : i.reread? with
    | none => rfl
    | some i' =>
      rw [Option.map_some, Option.bind_some, ih _ _ fun i hi => h i (List.mem_cons_of_mem _ hi)]
      cases rereadItems? rest <;> simp

theorem feedAll?_moreMembers {stack : List Container} (members done : List (String × Json))
    (k : String) (v : Json)
    (hs : (done.map Prod.fst ++ k :: members.map Prod.fst).Pairwise (· < ·))
    (h : ∀ m ∈ members, ∀ done, Takes (.object done m.1 :: stack) m.2) :
    feedAll? (.done v (.object done k :: stack)) (moreMembers members) =
      (rereadMembers? members).map fun members =>
        .done (.object (done ++ (k, v) :: members)) stack := by
  induction members generalizing done k v with
  | nil =>
    have hend : feed? (.done v (.object done k :: stack)) .closeObject =
        some (.done (.object (insertMember k v done)) stack) := rfl
    rw [moreMembers, feedAll?_cons, hend, insertMember_of_lt v (lt_of_pairwise_keys hs)]
    rfl
  | cons m rest ih =>
    have hcomma : feed? (.done v (.object done k :: stack)) .comma =
        some (.key (insertMember k v done) stack) := rfl
    have hkey : feed? (.key (done ++ [(k, v)]) stack) (.string m.1) =
        some (.colon (done ++ [(k, v)]) m.1 stack) := by
      cases done <;> rfl
    have hcolon : feed? (.colon (done ++ [(k, v)]) m.1 stack) .colon =
        some (.value (.object (done ++ [(k, v)]) m.1 :: stack)) := rfl
    have hm : feedAll? (.value (.object (done ++ [(k, v)]) m.1 :: stack)) m.2.tokens = _ :=
      h m List.mem_cons_self (done ++ [(k, v)])
    have hs' : ((done ++ [(k, v)]).map Prod.fst ++ m.1 :: rest.map Prod.fst).Pairwise (· < ·) := by
      simpa using hs
    rw [moreMembers, feedAll?_cons, hcomma, Option.bind_some, feedAll?_cons,
      insertMember_of_lt v (lt_of_pairwise_keys hs), hkey, Option.bind_some, feedAll?_cons, hcolon,
      Option.bind_some, feedAll?_append, hm, rereadMembers?]
    cases hread : m.2.reread? with
    | none => rfl
    | some v' =>
      rw [Option.map_some, Option.bind_some,
        ih _ _ _ hs' fun m hm => h m (List.mem_cons_of_mem _ hm)]
      cases rereadMembers? rest <;> simp

theorem feedAll?_numberText (stack : List Container) (value : Json)
    (members : List (String × Json)) :
    feedAll? (.numberText stack) (value.tokens ++ moreMembers members) =
      (markedNumber? value members).map fun n => .done (.number n) stack := by
  cases value with
  | string s =>
    have hfeed : feed? (.numberText stack) (.string s) =
        (NumberScan.read? s.toList).map (.numberEnd · stack) := rfl
    rw [tokens, List.singleton_append, feedAll?_cons, hfeed]
    cases members with
    | nil =>
      rw [markedNumber?]
      cases NumberScan.read? s.toList <;> rfl
    | cons m rest => cases NumberScan.read? s.toList <;> rfl
  | array items => cases items <;> rfl
  | object members => cases members <;> rfl
  | _ => rfl

theorem takes_of_within {n : Nat} {j : Json} (h : Within n j) {stack : List Container}
    (hn : stack.length + n ≤ maxDepth) : Takes stack j := by
  induction h generalizing stack with
  | null => rfl
  | bool => rfl
  | number => rfl
  | string => rfl
  | @array n items _ ih =>
    have hopen : feed? (.value stack) .openArray = some (.firstItem stack) :=
      if_pos (by omega)
    have hitem (j : Json) (hj : j ∈ items) (done : List Json) :
        Takes (.array done :: stack) j := ih j hj (by simp only [List.length_cons]; omega)
    cases items with
    | nil =>
      rw [Takes, tokens, feedAll?_cons, hopen]
      rfl
    | cons j rest =>
      have hj : feedAll? (.value (.array [] :: stack)) j.tokens = _ := hitem j List.mem_cons_self []
      rw [Takes, tokens, feedAll?_cons, hopen, Option.bind_some, feedAll?_append,
        feedAll?_firstItem, hj, reread?, rereadItems?]
      cases hread : j.reread? with
      | none => rfl
      | some j' =>
        rw [Option.map_some, Option.bind_some,
          feedAll?_moreItems rest [] j' fun i hi => hitem i (List.mem_cons_of_mem _ hi)]
        cases rereadItems? rest <;> rfl
  | @object n members hs _ ih =>
    have hopen : feed? (.value stack) .openObject = some (.key [] stack) := if_pos (by omega)
    have hmember (m : String × Json) (hm : m ∈ members) (done : List (String × Json)) :
        Takes (.object done m.1 :: stack) m.2 := ih m hm (by simp only [List.length_cons]; omega)
    cases members with
    | nil =>
      rw [Takes, tokens, feedAll?_cons, hopen]
      rfl
    | cons m rest =>
      obtain ⟨k, v⟩ := m
      rw [Takes, tokens, feedAll?_cons, hopen, Option.bind_some, feedAll?_cons]
      by_cases hk : k = numberKey
      · subst hk
        have hkey : feed? (.key [] stack) (.string numberKey) = some (.numberColon stack) := rfl
        have hcolon : feed? (.numberColon stack) .colon = some (.numberText stack) := rfl
        rw [hkey, Option.bind_some, feedAll?_cons, hcolon, Option.bind_some,
          feedAll?_numberText, reread?, if_pos rfl, Option.map_map]
        rfl
      · have hkey : feed? (.key [] stack) (.string k) = some (.colon [] k stack) := if_neg hk
        have hcolon : feed? (.colon [] k stack) .colon = some (.value (.object [] k :: stack)) :=
          rfl
        have hv : feedAll? (.value (.object [] k :: stack)) v.tokens = _ :=
          hmember (k, v) List.mem_cons_self []
        rw [hkey, Option.bind_some, feedAll?_cons, hcolon, Option.bind_some, feedAll?_append, hv,
          reread?, if_neg hk]
        cases hread : v.reread? with
        | none => rfl
        | some v' =>
          rw [Option.map_some, Option.bind_some, feedAll?_moreMembers rest [] k v'
            (List.pairwise_map.2 hs) fun m hm => hmember m (List.mem_cons_of_mem _ hm)]
          cases rereadMembers? rest <;> rfl

end Cursor

theorem parse?_render {j : Json} (h : Within maxDepth j) : parse? j.render = j.reread? := by
  have htokens : j.tokens.foldlM Cursor.feed? (.value []) = j.reread?.map (.done · []) :=
    Cursor.takes_of_within h (by simp)
  rw [parse?, render, String.toList_ofList, Token.scan?_flatMap_chars h.parted, Option.bind_some,
    ofTokens?, htokens]
  cases j.reread? <;> rfl

namespace Container

/-- The values that an open array or object holds so far are in order, and leave this many levels. -/
def Sound (n : Nat) : Container → Prop
  | .array items => ∀ j ∈ items, Within n j
  | .object members _ => Sorted members ∧ ∀ m ∈ members, Within n m.2

/-- What is open leaves as many levels as the reader has not used. -/
def StackSound : List Container → Prop
  | [] => True
  | c :: rest => rest.length < maxDepth ∧ c.Sound (maxDepth - (rest.length + 1)) ∧ StackSound rest

theorem within_array {d : Nat} (hd : d < maxDepth) {items : List Json}
    (h : ∀ j ∈ items, Within (maxDepth - (d + 1)) j) : Within (maxDepth - d) (.array items) := by
  have he : maxDepth - d = maxDepth - (d + 1) + 1 := by omega
  exact he ▸ .array h

theorem within_object {d : Nat} (hd : d < maxDepth) {members : List (String × Json)}
    (hs : Sorted members) (h : ∀ m ∈ members, Within (maxDepth - (d + 1)) m.2) :
    Within (maxDepth - d) (.object members) := by
  have he : maxDepth - d = maxDepth - (d + 1) + 1 := by omega
  exact he ▸ .object hs h

end Container

namespace Cursor

open Container

def Sound : Cursor → Prop
  | .value stack => StackSound stack
  | .firstItem stack => stack.length < maxDepth ∧ StackSound stack
  | .done j stack => Within (maxDepth - stack.length) j ∧ StackSound stack
  | .key members stack | .colon members _ stack =>
    StackSound (.object members "" :: stack)
  | .numberColon stack | .numberText stack | .numberEnd _ stack => StackSound stack

theorem sound_startValue? {stack : List Container} {t : Token} {c : Cursor}
    (h : StackSound stack) (hc : startValue? stack t = some c) : c.Sound := by
  cases t with
  | openArray =>
    obtain ⟨hlt, hc⟩ := Option.ite_none_right_eq_some.1 hc
    obtain rfl := Option.some.inj hc
    exact ⟨hlt, h⟩
  | openObject =>
    obtain ⟨hlt, hc⟩ := Option.ite_none_right_eq_some.1 hc
    obtain rfl := Option.some.inj hc
    exact ⟨hlt, ⟨.nil, by simp⟩, h⟩
  | null =>
    obtain rfl := Option.some.inj hc
    exact ⟨.null _, h⟩
  | bool b =>
    obtain rfl := Option.some.inj hc
    exact ⟨.bool _ b, h⟩
  | number n =>
    obtain rfl := Option.some.inj hc
    exact ⟨.number _ n, h⟩
  | string s =>
    obtain rfl := Option.some.inj hc
    exact ⟨.string _ s, h⟩
  | _ => cases hc

theorem sound_feed? {c c' : Cursor} {t : Token} (h : c.Sound) (hf : c.feed? t = some c') :
    c'.Sound := by
  unfold feed? at hf
  split at hf
  case h_1 => exact sound_startValue? h hf
  case h_2 stack =>
    obtain rfl := Option.some.inj hf
    exact ⟨within_array h.1 (by simp), h.2⟩
  case h_3 stack _ =>
    have hs : StackSound (.array [] :: stack) := ⟨h.1, by simp [Container.Sound], h.2⟩
    exact sound_startValue? hs hf
  case h_4 j items stack =>
    obtain rfl := Option.some.inj hf
    obtain ⟨hj, hlt, hitems, hstack⟩ := h
    exact ⟨hlt, List.forall_mem_cons.2 ⟨hj, hitems⟩, hstack⟩
  case h_5 j items stack =>
    obtain rfl := Option.some.inj hf
    obtain ⟨hj, hlt, hitems, hstack⟩ := h
    refine ⟨within_array hlt fun i hi => ?_, hstack⟩
    exact List.forall_mem_cons.2 ⟨hj, hitems⟩ i (List.mem_reverse.1 hi)
  case h_6 j members name stack =>
    obtain rfl := Option.some.inj hf
    obtain ⟨hj, hlt, ⟨hs, hm⟩, hstack⟩ := h
    exact ⟨hlt, within_insertMember hs hm hj, hstack⟩
  case h_7 j members name stack =>
    obtain rfl := Option.some.inj hf
    obtain ⟨hj, hlt, ⟨hs, hm⟩, hstack⟩ := h
    obtain ⟨hs', hm'⟩ := within_insertMember hs hm hj
    exact ⟨within_object hlt hs' hm', hstack⟩
  case h_8 stack name =>
    split at hf <;> obtain rfl := Option.some.inj hf
    · exact h.2.2
    · exact h
  case h_9 =>
    obtain rfl := Option.some.inj hf
    exact h
  case h_10 stack =>
    obtain rfl := Option.some.inj hf
    exact ⟨within_object h.1 .nil (by simp), h.2.2⟩
  case h_11 =>
    obtain rfl := Option.some.inj hf
    exact h
  case h_12 =>
    obtain rfl := Option.some.inj hf
    exact h
  case h_13 stack s =>
    obtain ⟨n, -, rfl⟩ := Option.map_eq_some_iff.1 hf
    exact h
  case h_14 n stack =>
    obtain rfl := Option.some.inj hf
    exact ⟨.number _ n, h⟩
  case h_15 => cases hf

theorem sound_feedAll? {c c' : Cursor} {ts : List Token} (h : c.Sound)
    (hf : c.feedAll? ts = some c') : c'.Sound := by
  induction ts generalizing c with
  | nil => exact Option.some.inj hf ▸ h
  | cons t rest ih =>
    rw [feedAll?_cons] at hf
    obtain ⟨m, hm, hrest⟩ := Option.bind_eq_some_iff.1 hf
    exact ih (sound_feed? h hm) hrest

end Cursor

theorem within_of_parse? {text : String} {j : Json} (h : parse? text = some j) :
    Within maxDepth j := by
  obtain ⟨ts, -, hts⟩ := Option.bind_eq_some_iff.1 h
  obtain ⟨c, hc, hfinish⟩ := Option.bind_eq_some_iff.1 hts
  have hsound := Cursor.sound_feedAll? (c := .value []) trivial hc
  unfold Cursor.finish? at hfinish
  split at hfinish
  · obtain rfl := Option.some.inj hfinish
    exact hsound.1
  · cases hfinish

end CentralSystem.Json
