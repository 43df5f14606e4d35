import CentralSystem.Event.Bus
import CentralSystem.Proofs.Event.Channel
import CentralSystem.Proofs.Event.History
import CentralSystem.Proofs.Table
import Mathlib.Data.List.Nodup

namespace CentralSystem

/-- What can be asked of a bus. -/
inductive BusStep where
  | publish (e : Event)
  | subscribe
  | tryReceive (subscriber : Nat)
  | unsubscribe (subscriber : Nat)

def BusStep.concerns (s : Nat) : BusStep → Bool
  | .publish _ | .subscribe => true
  | .tryReceive s' | .unsubscribe s' => s' == s

namespace EventBus

open BusHistory

def step (bus : EventBus) : BusStep → BusHistory × EventBus
  | .publish e => ([.published e], bus.publish e)
  | .subscribe => ([.subscribed bus.subscribe.1], bus.subscribe.2)
  | .tryReceive s =>
    if bus.subscribers.contains s then ([.took s (bus.tryReceive s).1], (bus.tryReceive s).2)
    else ([], bus)
  | .unsubscribe s =>
    if bus.subscribers.contains s then ([.left s], bus.unsubscribe s) else ([], bus)

def run (bus : EventBus) : List BusStep → BusHistory × EventBus
  | [] => ([], bus)
  | o :: rest =>
    ((bus.step o).1 ++ ((bus.step o).2.run rest).1, ((bus.step o).2.run rest).2)

theorem tryReceive_eq {bus : EventBus} {s next : Nat} (h : bus.subscribers.get? s = some next) :
    bus.tryReceive s = ((bus.channel.read next).message,
      { bus with subscribers := bus.subscribers.insert s (bus.channel.read next).next }) := by
  rw [tryReceive, receive, h]
  cases hmessage : (bus.channel.read next).message with
  | some e => simp [hmessage]
  | none => cases bus.isOpen <;> simp [hmessage]

end EventBus

theorem BusHistory.kept_iff {ds : BusHistory} {c : Channel Event} (hc : c.Holds ds.published)
    {i : Nat} : ds.Kept c.capacity i ↔ c.oldest ≤ i ∧ i < ds.published.length := by
  rw [Kept, Gone, hc.oldest]
  omega

/-- A subscriber that stands here, or has left, and what it has read so far. Of the events that are
kept, those from its place on are there for it. -/
structure Attends (capacity s : Nat) (ds : BusHistory) (place : Option Nat) (numbers : List Nat) :
    Prop where
  reads : BusHistory.Reads capacity s ds numbers
  le : ∀ next ∈ place, next ≤ ds.published.length
  unread : ∀ next ∈ place, ∀ i, ds.Kept capacity i →
    (ds.since s ≤ i ∧ i ∉ numbers ↔ next ≤ i)

namespace Attends

open BusHistory

variable {capacity s : Nat} {ds : BusHistory} {place : Option Nat} {numbers : List Nat}

theorem subscribed (h : ∀ d ∈ ds, d.subscriber? ≠ some s) :
    Attends capacity s (ds ++ [.subscribed s]) (some ds.published.length) [] where
  reads := .subscribed h
  le next hnext := by
    obtain rfl := Option.some.inj hnext
    simp [published_concat]
  unread next hnext i _ := by
    obtain rfl := Option.some.inj hnext
    simp [since_subscribed h]

variable (h : Attends capacity s ds place numbers)
include h

theorem gone_away : Attends capacity s ds none numbers :=
  ⟨h.reads, by simp, by simp⟩

theorem other {d : BusObservation} (hd : d.taken? s = none) :
    Attends capacity s (ds ++ [d]) place numbers where
  reads := .other d h.reads hd
  le next hnext := by
    rw [published_concat, List.length_append]
    exact Nat.le_add_right_of_le (h.le next hnext)
  unread next hnext i hkept := by
    rw [since_append h.reads.subscribed_mem]
    by_cases hlt : i < ds.published.length
    · exact h.unread next hnext i (hkept.of_concat hlt)
    · have hle := h.le next hnext
      have hsince := @since_le ds s
      have hnew : i ∉ numbers := fun hi => hlt (h.reads.lt_published hi)
      exact iff_of_true ⟨by omega, hnew⟩ (by omega)

section Take

variable {c : Channel Event} (hc : c.Holds ds.published) (hcapacity : c.capacity = capacity)
  {next : Nat} (hnext : place = some next)
include hc hcapacity hnext

theorem unread_iff {i : Nat} : ds.Unread s capacity numbers i ↔
    max next c.oldest ≤ i ∧ i < ds.published.length := by
  subst hcapacity
  constructor
  · rintro ⟨hsince, hkept, hnew⟩
    have hfrom := (h.unread next hnext i hkept).1 ⟨hsince, hnew⟩
    have hrange := (kept_iff hc).1 hkept
    exact ⟨max_le hfrom hrange.1, hrange.2⟩
  · rintro ⟨hfrom, hlt⟩
    have hkept := (kept_iff hc).2 ⟨(le_max_right ..).trans hfrom, hlt⟩
    obtain ⟨hsince, hnew⟩ := (h.unread next hnext i hkept).2 ((le_max_left ..).trans hfrom)
    exact ⟨hsince, hkept, hnew⟩

theorem take_event {e : Event} (he : ds.published[max next c.oldest]? = some e) :
    Attends capacity s (ds ++ [.took s (some e)]) (some (max next c.oldest + 1))
      (numbers ++ [max next c.oldest]) := by
  have hunread {i : Nat} := h.unread_iff hc hcapacity hnext (i := i)
  obtain ⟨hlt, -⟩ := List.getElem?_eq_some_iff.1 he
  refine ⟨.event h.reads ⟨hunread.2 ⟨le_rfl, hlt⟩, fun i hi => (hunread.1 hi).1⟩ he, ?_, ?_⟩
  · rintro _ ⟨⟩
    simpa [published_concat, BusObservation.published?, Nat.succ_le_iff] using hlt
  · rintro _ ⟨⟩ i hkept
    rw [kept_concat rfl] at hkept
    have hrange := (kept_iff hc).1 (hcapacity ▸ hkept)
    rw [since_append h.reads.subscribed_mem, List.mem_append, List.mem_singleton, not_or,
      ← and_assoc, h.unread next hnext i hkept]
    omega

theorem take_nothing (hle : ds.published.length ≤ max next c.oldest) :
    Attends capacity s (ds ++ [.took s none]) (some (max next c.oldest)) numbers := by
  have hnone (i : Nat) : ¬ds.Unread s capacity numbers i := fun hi => by
    have hrange := (h.unread_iff hc hcapacity hnext).1 hi
    omega
  refine ⟨.nothing h.reads hnone, ?_, ?_⟩
  · rintro _ ⟨⟩
    have hplace := h.le next hnext
    have holdest := hc.oldest
    simp only [published_concat, BusObservation.published?, Option.toList_none, List.append_nil]
    omega
  · rintro _ ⟨⟩ i hkept
    rw [kept_concat rfl] at hkept
    have hrange := (kept_iff hc).1 (hcapacity ▸ hkept)
    rw [since_append h.reads.subscribed_mem, h.unread next hnext i hkept]
    omega

theorem take : ∃ numbers, Attends capacity s (ds ++ [.took s (c.read next).message])
    (some (c.read next).next) numbers := by
  rw [hc.message_read, hc.next_read]
  cases he : ds.published[max next c.oldest]? with
  | some e =>
    rw [if_pos (List.getElem?_eq_some_iff.1 he).1]
    exact ⟨_, h.take_event hc hcapacity hnext he⟩
  | none =>
    have hle := List.getElem?_eq_none_iff.1 he
    rw [if_neg (Nat.not_lt.2 hle)]
    exact ⟨_, h.take_nothing hc hcapacity hnext hle⟩

end Take

end Attends

/-- What a bus with this history knows. -/
structure Account (capacity : Nat) (ds : BusHistory) (bus : EventBus) : Prop where
  sized : bus.channel.capacity = capacity
  holds : bus.channel.Holds ds.published
  subscribed : ds.filterMap BusObservation.subscribed? = List.range bus.nextSubscriber
  known : ∀ d ∈ ds, ∀ s ∈ d.subscriber?, .subscribed s ∈ ds
  present : ∀ s, (bus.subscribers.get? s).isSome = true ↔ .subscribed s ∈ ds ∧ .left s ∉ ds
  attends : ∀ s, .subscribed s ∈ ds →
    ∃ numbers, Attends capacity s ds (bus.subscribers.get? s) numbers

namespace Account

open BusHistory

variable {capacity : Nat} {ds : BusHistory} {bus : EventBus}

theorem withCapacity (n : Nat) : Account n.nextPowerOfTwo [] (.withCapacity n) where
  sized := rfl
  holds := Channel.holds_withCapacity n
  subscribed := rfl
  known := by simp
  present := by simp [EventBus.withCapacity]
  attends := by simp

variable (h : Account capacity ds bus)
include h

theorem mem_iff_lt {s : Nat} : .subscribed s ∈ ds ↔ s < bus.nextSubscriber := by
  rw [← List.mem_range, ← h.subscribed, List.mem_filterMap]
  constructor
  · exact fun hs => ⟨_, hs, rfl⟩
  · rintro ⟨d, hd, hs⟩
    cases d <;> cases hs
    exact hd

theorem known_concat {d : BusObservation} (hd : ∀ s ∈ d.subscriber?, .subscribed s ∈ ds ++ [d]) :
    ∀ d' ∈ ds ++ [d], ∀ s ∈ d'.subscriber?, .subscribed s ∈ ds ++ [d] := by
  intro d' hd' s hs
  rcases List.mem_append.1 hd' with hd' | hd'
  · exact List.mem_append_left _ (h.known d' hd' s hs)
  · obtain rfl := List.mem_singleton.1 hd'
    exact hd s hs

theorem publish (e : Event) : Account capacity (ds ++ [.published e]) (bus.publish e) where
  sized := h.sized
  holds := by
    rw [published_concat]
    exact h.holds.publish e
  subscribed := by
    rw [filterMap_concat, h.subscribed]
    exact List.append_nil _
  known := h.known_concat (by simp [BusObservation.subscriber?])
  present s := by simpa [EventBus.publish] using h.present s
  attends s hs := by
    obtain ⟨numbers, ha⟩ := h.attends s (by simpa using hs)
    exact ⟨numbers, ha.other rfl⟩

theorem subscribe : Account capacity (ds ++ [.subscribed bus.subscribe.1]) bus.subscribe.2 := by
  have hnew : ∀ d ∈ ds, d.subscriber? ≠ some bus.nextSubscriber := fun d hd hs =>
    lt_irrefl _ (h.mem_iff_lt.1 (h.known d hd _ hs))
  have hget (s : Nat) : bus.subscribe.2.subscribers.get? s =
      if s = bus.nextSubscriber then some ds.published.length else bus.subscribers.get? s := by
    rw [← h.holds.published]
    exact Table.get?_insert ..
  refine ⟨h.sized, ?_, ?_, ?_, fun s => ?_, fun s hs => ?_⟩
  · rw [published_concat]
    exact (List.append_nil ds.published).symm ▸ h.holds
  · rw [filterMap_concat, h.subscribed]
    exact List.range_succ.symm
  · exact h.known_concat (by simp [BusObservation.subscriber?])
  · rw [hget]
    split
    · next hs =>
      subst hs
      have hleft : .left bus.nextSubscriber ∉ ds := fun hleft => hnew _ hleft rfl
      simp [EventBus.subscribe, hleft]
    · next hs => simpa [EventBus.subscribe, hs] using h.present s
  · rw [hget]
    split
    · next hs =>
      subst hs
      exact ⟨[], .subscribed hnew⟩
    · next hs' =>
      obtain ⟨numbers, ha⟩ := h.attends s (by simpa [EventBus.subscribe, hs'] using hs)
      exact ⟨numbers, ha.other rfl⟩

theorem of_channel {bus' : EventBus} {d : BusObservation} (hchannel : bus'.channel = bus.channel)
    (hnext : bus'.nextSubscriber = bus.nextSubscriber) (hquiet : d.published? = none)
    (hold : d.subscribed? = none) (hd : ∀ s ∈ d.subscriber?, .subscribed s ∈ ds)
    (hpresent : ∀ s, (bus'.subscribers.get? s).isSome = true ↔
      .subscribed s ∈ ds ++ [d] ∧ .left s ∉ ds ++ [d])
    (hattends : ∀ s, .subscribed s ∈ ds →
      ∃ numbers, Attends capacity s (ds ++ [d]) (bus'.subscribers.get? s) numbers) :
    Account capacity (ds ++ [d]) bus' where
  sized := hchannel ▸ h.sized
  holds := by
    rw [published_concat, hquiet, Option.toList_none, List.append_nil, hchannel]
    exact h.holds
  subscribed := by
    rw [filterMap_concat, hold, Option.toList_none, List.append_nil, hnext]
    exact h.subscribed
  known := h.known_concat fun s hs => List.mem_append_left _ (hd s hs)
  present := hpresent
  attends s hs := by
    refine hattends s ((List.mem_append.1 hs).resolve_right fun he => ?_)
    rw [← List.mem_singleton.1 he] at hold
    cases hold

theorem tryReceive {s : Nat} (hs : bus.subscribers.contains s = true) :
    Account capacity (ds ++ [.took s (bus.tryReceive s).1]) (bus.tryReceive s).2 := by
  obtain ⟨next, hnext⟩ := Table.contains_iff.1 hs
  have hmem : .subscribed s ∈ ds := ((h.present s).1 hs).1
  rw [EventBus.tryReceive_eq hnext]
  have hget (s' : Nat) : (bus.subscribers.insert s (bus.channel.read next).next).get? s' =
      if s' = s then some (bus.channel.read next).next else bus.subscribers.get? s' :=
    Table.get?_insert ..
  refine h.of_channel rfl rfl rfl rfl (fun _ he => Option.some.inj he ▸ hmem) (fun s' => ?_)
    fun s' hs' => ?_
  · have hsame : (if s' = s then some (bus.channel.read next).next
        else bus.subscribers.get? s').isSome = (bus.subscribers.get? s').isSome := by
      split
      · next he => rw [he, hnext, Option.isSome_some, Option.isSome_some]
      · rfl
    rw [hget, hsame]
    simpa using h.present s'
  · obtain ⟨numbers, ha⟩ := h.attends s' hs'
    rw [hget]
    split
    · next he =>
      subst he
      exact ha.take h.holds h.sized hnext
    · next hne => exact ⟨numbers, ha.other (if_neg (Ne.symm hne))⟩

theorem unsubscribe {s : Nat} (hs : bus.subscribers.contains s = true) :
    Account capacity (ds ++ [.left s]) (bus.unsubscribe s) := by
  have hmem : .subscribed s ∈ ds := ((h.present s).1 hs).1
  have hget (s' : Nat) : (bus.unsubscribe s).subscribers.get? s' =
      if s' = s then none else bus.subscribers.get? s' := Table.get?_erase ..
  refine h.of_channel rfl rfl rfl rfl (fun _ he => Option.some.inj he ▸ hmem) (fun s' => ?_)
    fun s' hs' => ?_
  · rw [hget]
    split
    · next he => simp [he]
    · next hne => simpa [hne] using h.present s'
  · obtain ⟨numbers, ha⟩ := h.attends s' hs'
    rw [hget]
    split
    · exact ⟨numbers, (ha.other rfl).gone_away⟩
    · exact ⟨numbers, ha.other rfl⟩

theorem step (o : BusStep) :
    Account capacity (ds ++ (bus.step o).1) (bus.step o).2 := by
  cases o with
  | publish e => exact h.publish e
  | subscribe => exact h.subscribe
  | tryReceive s =>
    rw [EventBus.step]
    split
    · next hs => exact h.tryReceive hs
    · simpa using h
  | unsubscribe s =>
    rw [EventBus.step]
    split
    · next hs => exact h.unsubscribe hs
    · simpa using h

theorem run (os : List BusStep) : Account capacity (ds ++ (bus.run os).1) (bus.run os).2 := by
  induction os generalizing ds bus with
  | nil => simpa [EventBus.run] using h
  | cons o rest ih =>
    have hrest := ih (h.step o)
    rwa [List.append_assoc] at hrest

theorem subscriberCount : bus.subscriberCount = ds.present.length := by
  have hnodup : ds.present.Nodup := by
    rw [BusHistory.present, h.subscribed]
    exact List.nodup_range.filter _
  have hmem (s : Nat) : s ∈ bus.subscribers.keys ↔ s ∈ ds.present := by
    rw [Table.mem_keys_iff, ← Option.isSome_iff_exists, h.present, BusHistory.present,
      List.mem_filter, h.subscribed, List.mem_range, ← h.mem_iff_lt, decide_eq_true_iff]
  have hperm := (List.perm_ext_iff_of_nodup bus.subscribers.keys_nodup hnodup).2 hmem
  rw [← hperm.length_eq, Table.keys, List.length_map]
  rfl

end Account

namespace EventBus

variable {bus bus' : EventBus} {s : Nat}

structure SameTo (s : Nat) (bus bus' : EventBus) : Prop where
  channel : bus'.channel = bus.channel
  nextSubscriber : bus'.nextSubscriber = bus.nextSubscriber
  place : bus'.subscribers.get? s = bus.subscribers.get? s

namespace SameTo

theorem refl (bus : EventBus) : SameTo s bus bus := ⟨rfl, rfl, rfl⟩

variable (h : SameTo s bus bus')
include h

theorem skip {o : BusStep} (ho : o.concerns s = false) :
    SameTo s (bus.step o).2 bus' ∧ (bus.step o).1.taken s = [] := by
  cases o with
  | publish | subscribe => cases ho
  | tryReceive s' =>
    have hne : s' ≠ s := by simpa [BusStep.concerns] using ho
    rw [step]
    split
    · next hs' =>
      obtain ⟨next, hnext⟩ := Table.contains_iff.1 hs'
      rw [tryReceive_eq hnext]
      refine ⟨⟨h.channel, h.nextSubscriber, ?_⟩, ?_⟩
      · rw [Table.get?_insert, if_neg hne.symm]
        exact h.place
      · simp [BusHistory.taken, BusObservation.taken?, hne]
    · exact ⟨h, rfl⟩
  | unsubscribe s' =>
    have hne : s' ≠ s := by simpa [BusStep.concerns] using ho
    rw [step]
    split
    · refine ⟨⟨h.channel, h.nextSubscriber, ?_⟩, rfl⟩
      rw [unsubscribe, Table.get?_erase, if_neg hne.symm]
      exact h.place
    · exact ⟨h, rfl⟩

theorem step {o : BusStep} (ho : o.concerns s = true) :
    SameTo s (bus.step o).2 (bus'.step o).2 ∧
      (bus'.step o).1.taken s = (bus.step o).1.taken s := by
  cases o with
  | publish e =>
    refine ⟨⟨?_, h.nextSubscriber, h.place⟩, rfl⟩
    simp only [EventBus.step, publish, h.channel]
  | subscribe =>
    refine ⟨⟨h.channel, ?_, ?_⟩, rfl⟩
    · simp only [EventBus.step, subscribe, h.nextSubscriber]
    · simp only [EventBus.step, subscribe, Table.get?_insert, h.nextSubscriber, h.channel,
        h.place]
  | tryReceive s' =>
    obtain rfl : s' = s := by simpa [BusStep.concerns] using ho
    have hplace := h.place
    rw [EventBus.step, EventBus.step, Table.contains, Table.contains, h.place]
    cases hnext : bus.subscribers.get? s' with
    | none => exact ⟨h, rfl⟩
    | some next =>
      rw [hnext] at hplace
      simp only [Option.isSome_some, ↓reduceIte]
      rw [tryReceive_eq hnext, tryReceive_eq hplace, h.channel]
      exact ⟨⟨rfl, h.nextSubscriber, by simp⟩, rfl⟩
  | unsubscribe s' =>
    obtain rfl : s' = s := by simpa [BusStep.concerns] using ho
    rw [EventBus.step, EventBus.step, Table.contains, Table.contains, h.place]
    split
    · refine ⟨⟨h.channel, h.nextSubscriber, ?_⟩, rfl⟩
      simp [unsubscribe, Table.get?_erase]
    · exact ⟨h, rfl⟩

theorem run (os : List BusStep) :
    ((bus'.run (os.filter (·.concerns s))).1).taken s = ((bus.run os).1).taken s := by
  induction os generalizing bus bus' with
  | nil => rfl
  | cons o rest ih =>
    rw [EventBus.run, BusHistory.taken_append]
    cases ho : o.concerns s with
    | true =>
      obtain ⟨hsame, htaken⟩ := h.step ho
      rw [List.filter_cons_of_pos ho, EventBus.run, BusHistory.taken_append, ih hsame, htaken]
    | false =>
      obtain ⟨hsame, htaken⟩ := h.skip ho
      rw [List.filter_cons_of_neg (by simp [ho]), ih hsame, htaken, List.nil_append]

end SameTo

end EventBus

/-- Along every run of a bus, each subscriber gets events in their order: each time the oldest one
that came after it, that it has not read and that is still kept, and none only if there is none. It
misses those that were pushed out before it read them. What others read, and whether they leave,
makes no difference. One that is behind comes to its event after looking again. -/
theorem reception_run (n : Nat) (os : List BusStep) :
    let r := (EventBus.withCapacity n).run os
    (∀ s, .subscribed s ∈ r.1 → ∃ numbers, Reception n.nextPowerOfTwo s r.1 numbers) ∧
      r.2.subscriberCount = r.1.present.length ∧
      (∀ s os', os'.filter (·.concerns s) = os.filter (·.concerns s) →
        ((EventBus.withCapacity n).run os').1.taken s = r.1.taken s) ∧
      ∀ s next, r.2.subscribers.get? s = some next → ∀ message last,
        r.2.channel.Looks next message last ↔
          message = (r.2.tryReceive s).1 ∧ some last = (r.2.tryReceive s).2.subscribers.get? s := by
  have hr : Account n.nextPowerOfTwo ((EventBus.withCapacity n).run os).1
      ((EventBus.withCapacity n).run os).2 := (Account.withCapacity n).run os
  refine ⟨fun s hs => ?_, hr.subscriberCount, fun s os' hsame => ?_, fun s next hnext _ _ => ?_⟩
  · obtain ⟨numbers, ha⟩ := hr.attends s hs
    exact ⟨numbers, ha.reads.reception⟩
  · rw [← (EventBus.SameTo.refl _).run os', hsame, (EventBus.SameTo.refl _).run os]
  · rw [EventBus.tryReceive_eq hnext, Channel.looks_iff]
    simp

/-- Where one event is kept, the first of two is lost to a subscriber that is too slow. -/
example (a b : Event) : ((EventBus.withCapacity 1).run
    [.subscribe, .publish a, .publish b, .tryReceive 0, .tryReceive 0]).1 =
      [.subscribed 0, .published a, .published b, .took 0 (some b), .took 0 none] := by cbv

end CentralSystem
