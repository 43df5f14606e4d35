import CentralSystem.Event.Channel

namespace CentralSystem.Channel

variable {α : Type} {c : Channel α} {all : List α}

/-- A channel in which these messages were published. It keeps the newest of them. -/
structure Holds (c : Channel α) (all : List α) : Prop where
  published : c.published = all.length
  buffer : c.buffer = all.drop (all.length - c.capacity)

theorem holds_withCapacity (n : Nat) : (withCapacity n : Channel α).Holds [] :=
  ⟨rfl, List.drop_nil.symm⟩

namespace Holds

theorem publish (h : c.Holds all) (a : α) : (c.publish a).Holds (all ++ [a]) where
  published := by
    rw [List.length_append, ← h.published]
    rfl
  buffer := by
    have hpos := c.capacity_pos
    show (c.buffer ++ [a]).drop (c.buffer.length + 1 - c.capacity) =
      (all ++ [a]).drop ((all ++ [a]).length - c.capacity)
    rw [h.buffer, ← List.drop_append_of_le_length (by omega), List.drop_drop]
    congr 1
    simp only [List.length_drop, List.length_append, List.length_singleton]
    omega

variable (h : c.Holds all)
include h

theorem oldest : c.oldest = all.length - c.capacity := by
  rw [Channel.oldest, h.published, h.buffer, List.length_drop]
  omega

theorem buffer_getElem? {i : Nat} (hi : c.oldest ≤ i) : c.buffer[i - c.oldest]? = all[i]? := by
  rw [h.buffer, ← h.oldest, List.getElem?_drop, Nat.add_sub_cancel' hi]

theorem message_read (next : Nat) : (c.read next).message = all[max next c.oldest]? := by
  rw [← h.buffer_getElem? (Nat.le_max_right ..), read]
  split <;> simp_all

theorem next_read (next : Nat) : (c.read next).next =
    if max next c.oldest < all.length then max next c.oldest + 1 else max next c.oldest := by
  have hmessage := h.buffer_getElem? (Nat.le_max_right next c.oldest)
  rw [read]
  split
  · next a ha =>
    obtain ⟨hlt, -⟩ := List.getElem?_eq_some_iff.1 (hmessage.symm.trans ha)
    rw [if_pos hlt]
  · next hnone =>
    have hle := List.getElem?_eq_none_iff.1 (hmessage.symm.trans hnone)
    rw [if_neg (by omega)]

end Holds

/-- What a reader finds in one look. -/
inductive Look (α : Type) where
  | behind (missed : Nat)
  | message (a : α)
  | nothing

def look (c : Channel α) (next : Nat) : Look α × Nat :=
  if next < c.oldest then (.behind (c.oldest - next), c.oldest)
  else
    match c.buffer[next - c.oldest]? with
    | some a => (.message a, next + 1)
    | none => (.nothing, next)

/-- A reader that looks until it is not behind any more, and what it gets in the end. -/
inductive Looks (c : Channel α) : Nat → Option α → Nat → Prop
  | behind {next next' missed message last} (h : c.look next = (.behind missed, next'))
    (hrest : c.Looks next' message last) : c.Looks next message last
  | message {next a last} (h : c.look next = (.message a, last)) : c.Looks next (some a) last
  | nothing {next last} (h : c.look next = (.nothing, last)) : c.Looks next none last

theorem looks_of_le {next : Nat} (hle : c.oldest ≤ next) :
    c.Looks next (c.read next).message (c.read next).next := by
  have hlook : c.look next = match c.buffer[next - c.oldest]? with
      | some a => (.message a, next + 1)
      | none => (.nothing, next) := if_neg (Nat.not_lt.2 hle)
  rw [read, Nat.max_eq_left hle]
  cases hbuffer : c.buffer[next - c.oldest]? with
  | some a => exact .message (by rw [hlook, hbuffer])
  | none => exact .nothing (by rw [hlook, hbuffer])

/-- Looking comes to an end, since the oldest message is still there at the second look. -/
theorem looks_read (next : Nat) : c.Looks next (c.read next).message (c.read next).next := by
  by_cases hle : c.oldest ≤ next
  · exact looks_of_le hle
  · have hsame : (c.read c.oldest).message = (c.read next).message ∧
        (c.read c.oldest).next = (c.read next).next := by
      have hmax : max next c.oldest = max c.oldest c.oldest := by omega
      simp only [read, hmax]
      split <;> exact ⟨rfl, rfl⟩
    have hrest := looks_of_le (c := c) (Nat.le_refl c.oldest)
    rw [hsame.1, hsame.2] at hrest
    exact .behind (if_pos (Nat.not_le.1 hle)) hrest

theorem Looks.unique {next last last' : Nat} {message message' : Option α}
    (h : c.Looks next message last) (h' : c.Looks next message' last') :
    message = message' ∧ last = last' := by
  induction h with
  | behind h _ ih =>
    cases h' with
    | behind h' hrest' =>
      obtain ⟨-, rfl⟩ := Prod.mk.inj (h.symm.trans h')
      exact ih hrest'
    | message h' => cases h.symm.trans h'
    | nothing h' => cases h.symm.trans h'
  | message h =>
    cases h' with
    | behind h' => cases h.symm.trans h'
    | message h' =>
      cases h.symm.trans h'
      exact ⟨rfl, rfl⟩
    | nothing h' => cases h.symm.trans h'
  | nothing h =>
    cases h' with
    | behind h' => cases h.symm.trans h'
    | message h' => cases h.symm.trans h'
    | nothing h' =>
      cases h.symm.trans h'
      exact ⟨rfl, rfl⟩

theorem looks_iff {next last : Nat} {message : Option α} : c.Looks next message last ↔
    message = (c.read next).message ∧ last = (c.read next).next :=
  ⟨fun h => h.unique (looks_read next), fun ⟨hm, hl⟩ => hm ▸ hl ▸ looks_read next⟩

end CentralSystem.Channel
