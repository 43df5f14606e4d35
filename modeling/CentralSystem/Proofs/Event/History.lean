import CentralSystem.Event
import Mathlib.Data.List.Forall2
import Mathlib.Data.List.TakeWhile
import Mathlib.Order.Bounds.Basic

namespace CentralSystem

/-- What is seen of a bus from outside. -/
inductive BusObservation where
  | published (e : Event)
  | subscribed (subscriber : Nat)
  | took (subscriber : Nat) (e : Option Event)
  | left (subscriber : Nat)
deriving DecidableEq

namespace BusObservation

def published? : BusObservation → Option Event
  | published e => some e
  | _ => none

def subscribed? : BusObservation → Option Nat
  | subscribed s => some s
  | _ => none

def subscriber? : BusObservation → Option Nat
  | published _ => none
  | subscribed s | took s _ | left s => some s

def taken? (s : Nat) : BusObservation → Option (Option Event)
  | took s' e => if s' = s then some e else none
  | _ => none

end BusObservation

abbrev BusHistory := List BusObservation

namespace BusHistory

variable (ds : BusHistory) (s : Nat)

def published : List Event := ds.filterMap BusObservation.published?

/-- What a subscriber was answered, each time that it asked. -/
def taken : List (Option Event) := ds.filterMap (BusObservation.taken? s)

def received : List Event := (ds.taken s).filterMap id

/-- How many events had been published when a subscriber came. -/
def since : Nat := (published (ds.takeWhile (· != .subscribed s))).length

/-- The subscribers that have not left. -/
def present : List Nat := (ds.filterMap BusObservation.subscribed?).filter (.left · ∉ ds)

/-- Whether an event was pushed out by newer ones. Events are numbered in the order in which they
were published. -/
def Gone (capacity i : Nat) : Prop := i + capacity < ds.published.length

def Kept (capacity i : Nat) : Prop := i < ds.published.length ∧ ¬ds.Gone capacity i

def Unread (capacity : Nat) (numbers : List Nat) (i : Nat) : Prop :=
  ds.since s ≤ i ∧ ds.Kept capacity i ∧ i ∉ numbers

/-- The numbers of the events that a subscriber reads: each time that it asks the oldest one that is
there for it, or none if there is none. -/
inductive Reads (capacity s : Nat) : BusHistory → List Nat → Prop
  | subscribed {ds : BusHistory} (h : ∀ d ∈ ds, d.subscriber? ≠ some s) :
    Reads capacity s (ds ++ [.subscribed s]) []
  | other {ds : BusHistory} {numbers} (d : BusObservation) (h : Reads capacity s ds numbers)
    (hd : d.taken? s = none) : Reads capacity s (ds ++ [d]) numbers
  | event {ds : BusHistory} {numbers i e} (h : Reads capacity s ds numbers)
    (hi : IsLeast {i | ds.Unread s capacity numbers i} i) (he : ds.published[i]? = some e) :
    Reads capacity s (ds ++ [.took s (some e)]) (numbers ++ [i])
  | nothing {ds : BusHistory} {numbers} (h : Reads capacity s ds numbers)
    (hnone : ∀ i, ¬ds.Unread s capacity numbers i) :
    Reads capacity s (ds ++ [.took s none]) numbers

section Basic

variable {ds s} {capacity i : Nat} {d : BusObservation}

theorem filterMap_concat {α β : Type} (f : α → Option β) (l : List α) (a : α) :
    (l ++ [a]).filterMap f = l.filterMap f ++ (f a).toList := by
  rw [List.filterMap_append]
  cases h : f a <;> simp [h]

theorem published_concat : published (ds ++ [d]) = ds.published ++ d.published?.toList :=
  filterMap_concat ..

theorem taken_concat : taken (ds ++ [d]) s = ds.taken s ++ (d.taken? s).toList :=
  filterMap_concat ..

theorem taken_append (ds' : BusHistory) : taken (ds ++ ds') s = ds.taken s ++ ds'.taken s :=
  List.filterMap_append

theorem received_concat :
    received (ds ++ [d]) s = ds.received s ++ (d.taken? s).toList.filterMap id := by
  rw [received, taken_concat, List.filterMap_append]
  rfl

theorem since_le : ds.since s ≤ ds.published.length :=
  ((List.takeWhile_prefix _).filterMap _).length_le

theorem since_append (h : .subscribed s ∈ ds) (ds' : BusHistory) :
    since (ds ++ ds') s = ds.since s := by
  have hshort : (ds.takeWhile (· != .subscribed s)).length ≠ ds.length := fun hlen => by
    have hall := (List.takeWhile_prefix _).eq_of_length hlen
    have hne := List.mem_takeWhile_imp (hall ▸ h)
    simp at hne
  rw [since, List.takeWhile_append, if_neg hshort]
  rfl

theorem since_subscribed (h : ∀ d ∈ ds, d.subscriber? ≠ some s) :
    since (ds ++ [.subscribed s]) s = ds.published.length := by
  have hall : ∀ d ∈ ds, (d != .subscribed s) = true := fun d hd => by
    simpa using fun he : d = .subscribed s => h d hd (he ▸ rfl)
  rw [since, List.takeWhile_append_of_pos hall]
  simp

theorem taken_of_new (h : ∀ d ∈ ds, d.subscriber? ≠ some s) : ds.taken s = [] := by
  refine List.filterMap_eq_nil_iff.2 fun d hd => ?_
  have hne := h d hd
  cases d <;> simp_all [BusObservation.taken?, BusObservation.subscriber?]

theorem Gone.of_prefix {ds' : BusHistory} (h : ds'.Gone capacity i) (hp : ds' <+: ds) :
    ds.Gone capacity i :=
  h.trans_le (hp.filterMap _).length_le

theorem kept_concat (hd : d.published? = none) :
    Kept (ds ++ [d]) capacity i ↔ ds.Kept capacity i := by
  rw [Kept, Kept, Gone, Gone, published_concat, hd, Option.toList_none, List.append_nil]

theorem unread_concat (hs : .subscribed s ∈ ds) (hd : d.published? = none) {numbers : List Nat} :
    Unread (ds ++ [d]) s capacity numbers i ↔ ds.Unread s capacity numbers i := by
  rw [Unread, Unread, since_append hs, kept_concat hd]

theorem Kept.of_concat (h : Kept (ds ++ [d]) capacity i) (hlt : i < ds.published.length) :
    ds.Kept capacity i :=
  ⟨hlt, fun hg => h.2 (hg.of_prefix (List.prefix_append ..))⟩

end Basic

namespace Reads

variable {ds s} {capacity i : Nat} {numbers : List Nat} {d : BusObservation}

theorem subscribed_mem (h : Reads capacity s ds numbers) : .subscribed s ∈ ds := by
  induction h with
  | subscribed => simp
  | other _ _ _ ih => exact List.mem_append_left _ ih
  | event _ _ _ ih => exact List.mem_append_left _ ih
  | nothing _ _ ih => exact List.mem_append_left _ ih

theorem received (h : Reads capacity s ds numbers) : List.Forall₂
    (fun i e => ds.since s ≤ i ∧ ds.published[i]? = some e) numbers (ds.received s) := by
  have hgrow {ds : BusHistory} (d : BusObservation) {numbers : List Nat} {es : List Event}
      (hs : .subscribed s ∈ ds) (h : List.Forall₂
        (fun i e => ds.since s ≤ i ∧ ds.published[i]? = some e) numbers es) :
      List.Forall₂ (fun i e => since (ds ++ [d]) s ≤ i ∧ (published (ds ++ [d]))[i]? = some e)
        numbers es := by
    refine h.imp fun i e ⟨hi, he⟩ => ⟨since_append hs _ ▸ hi, ?_⟩
    obtain ⟨hlt, -⟩ := List.getElem?_eq_some_iff.1 he
    rw [published_concat, List.getElem?_append_left hlt, he]
  induction h with
  | subscribed h =>
    rw [received_concat, BusHistory.received, taken_of_new h]
    exact .nil
  | other d h hd ih =>
    rw [received_concat, hd, Option.toList_none, List.filterMap_nil, List.append_nil]
    exact hgrow d h.subscribed_mem ih
  | @event ds numbers i e h hi he ih =>
    have htook : (BusObservation.took s (some e)).taken? s = some (some e) := if_pos rfl
    have hnew := hgrow (.took s (some e)) h.subscribed_mem
      (.cons ⟨hi.1.1, he⟩ .nil : List.Forall₂ _ [i] [e])
    rw [received_concat, htook]
    exact List.rel_append (hgrow _ h.subscribed_mem ih) hnew
  | nothing h _ ih =>
    have htook : (BusObservation.took s none).taken? s = some none := if_pos rfl
    rw [received_concat, htook]
    simpa using hgrow (.took s none) h.subscribed_mem ih

theorem length_received (h : Reads capacity s ds numbers) :
    (ds.received s).length = numbers.length := h.received.length_eq.symm

theorem lt_published (h : Reads capacity s ds numbers) (hi : i ∈ numbers) :
    i < ds.published.length := by
  obtain ⟨n, hn, rfl⟩ := List.mem_iff_getElem.1 hi
  have hn' : n < (ds.received s).length := h.length_received ▸ hn
  exact (List.getElem?_eq_some_iff.1 ((List.forall₂_iff_get.1 h.received).2 n hn hn').2).1

theorem lt_of_unread (h : Reads capacity s ds numbers) (hi : ds.Unread s capacity numbers i)
    {j : Nat} (hj : j ∈ numbers) : j < i := by
  induction h generalizing i j with
  | subscribed => cases hj
  | @other ds numbers d h _ ih =>
    obtain ⟨hsince, hkept, hnew⟩ := hi
    rw [since_append h.subscribed_mem] at hsince
    by_cases hlt : i < ds.published.length
    · exact ih ⟨hsince, hkept.of_concat hlt, hnew⟩ hj
    · exact (h.lt_published hj).trans_le (Nat.not_lt.1 hlt)
  | @event ds numbers k e h hk _ ih =>
    obtain ⟨hsince, hkept, hnew⟩ := (unread_concat h.subscribed_mem rfl).1 hi
    rw [List.mem_append, List.mem_singleton, not_or] at hnew
    have hold : ds.Unread s capacity numbers i := ⟨hsince, hkept, hnew.1⟩
    rcases List.mem_append.1 hj with hj | hj
    · exact ih hold hj
    · exact List.mem_singleton.1 hj ▸ lt_of_le_of_ne (hk.2 hold) (Ne.symm hnew.2)
  | nothing h _ ih => exact ih ((unread_concat h.subscribed_mem rfl).1 hi) hj

theorem pairwise (h : Reads capacity s ds numbers) : numbers.Pairwise (· < ·) := by
  induction h with
  | subscribed => exact .nil
  | other _ _ _ ih => exact ih
  | event h hi _ ih =>
    refine List.pairwise_append.2 ⟨ih, List.pairwise_singleton .., fun j hj i hi' => ?_⟩
    exact List.mem_singleton.1 hi' ▸ h.lt_of_unread hi.1 hj
  | nothing _ _ ih => exact ih

theorem gone_of_skipped (h : Reads capacity s ds numbers) (hsince : ds.since s ≤ i)
    (hi : i ∉ numbers) {j : Nat} (hj : j ∈ numbers) (hlt : i < j) : ds.Gone capacity i := by
  by_contra hgone
  have hkept : ds.Kept capacity i := ⟨hlt.trans (h.lt_published hj), hgone⟩
  exact lt_asymm hlt (h.lt_of_unread ⟨hsince, hkept, hi⟩ hj)

theorem not_mem_of_gone (h : Reads capacity s ds numbers) {before : BusHistory} (hp : before <+: ds)
    (hgone : before.Gone capacity i) (hi : i ∉ numbers.take (before.received s).length) :
    i ∉ numbers := by
  have hwhole {ds : BusHistory} {numbers : List Nat} (h : Reads capacity s ds numbers)
      (hi : i ∉ numbers.take (ds.received s).length) : i ∉ numbers := by
    rwa [h.length_received, List.take_length] at hi
  induction h with
  | subscribed => exact List.not_mem_nil
  | other d h hd ih =>
    rcases List.prefix_concat_iff.1 hp with rfl | hp
    · exact hwhole (.other d h hd) hi
    · exact ih hp hi
  | @event ds numbers k e h hk he ih =>
    rcases List.prefix_concat_iff.1 hp with rfl | hp
    · exact hwhole (.event h hk he) hi
    · have hle : (before.received s).length ≤ numbers.length := by
        rw [← h.length_received]
        exact ((hp.filterMap _).filterMap _).length_le
      rw [List.take_append_of_le_length hle] at hi
      have hne : i ≠ k := fun he => hk.1.2.1.2 (he ▸ hgone.of_prefix hp)
      simpa using ⟨ih hp hi, hne⟩
  | nothing h hnone ih =>
    rcases List.prefix_concat_iff.1 hp with rfl | hp
    · exact hwhole (.nothing h hnone) hi
    · exact ih hp hi

/-- The events that are lost to a subscriber are those that were pushed out before it read them. -/
theorem gone_iff (h : Reads capacity s ds numbers) : i ∉ numbers ∧ ds.Gone capacity i ↔
    ∃ before : BusHistory, before <+: ds ∧ before.Gone capacity i ∧
      i ∉ numbers.take (before.received s).length := by
  constructor
  · rintro ⟨hi, hgone⟩
    exact ⟨ds, List.prefix_rfl, hgone, fun hmem => hi (List.mem_of_mem_take hmem)⟩
  · rintro ⟨before, hp, hgone, hi⟩
    exact ⟨h.not_mem_of_gone hp hgone hi, hgone.of_prefix hp⟩

end Reads

end BusHistory

/-- What a subscriber gets, as the numbers of the events that it reads. -/
structure Reception (capacity s : Nat) (ds : BusHistory) (numbers : List Nat) : Prop where
  reads : BusHistory.Reads capacity s ds numbers
  increasing : numbers.Pairwise (· < ·)
  received : List.Forall₂ (fun i e => ds.since s ≤ i ∧ ds.published[i]? = some e) numbers
    (ds.received s)
  skipped : ∀ i ∉ numbers, ds.since s ≤ i → (∃ j ∈ numbers, i < j) → ds.Gone capacity i
  missed : ∀ i, i ∉ numbers ∧ ds.Gone capacity i ↔ ∃ before : BusHistory, before <+: ds ∧
    before.Gone capacity i ∧ i ∉ numbers.take (before.received s).length

theorem BusHistory.Reads.reception {capacity s : Nat} {ds : BusHistory} {numbers : List Nat}
    (h : Reads capacity s ds numbers) : Reception capacity s ds numbers :=
  ⟨h, h.pairwise, h.received, fun _ hi hsince ⟨_, hj, hlt⟩ => h.gone_of_skipped hsince hi hj hlt,
    fun _ => h.gone_iff⟩

end CentralSystem
