import CentralSystem.Proofs.Errands
import CentralSystem.Proofs.Watch
import Mathlib.Data.List.DropRight

namespace CentralSystem

namespace WatchOrder

def watched? (id : Int32) : WatchOrder → Option Watched
  | register id' entry => if id' = id then some entry else none
  | unregister _ => none

theorem watched?_eq_some_iff {id : Int32} {o : WatchOrder} {entry : Watched} :
    o.watched? id = some entry ↔ o = .register id entry := by
  cases o <;> simp [watched?]

theorem watched?_eq_none_iff {id : Int32} {o : WatchOrder} :
    o.watched? id = none ↔ ∀ entry, o ≠ .register id entry := by
  simp only [Option.eq_none_iff_forall_ne_some, ne_eq, watched?_eq_some_iff]

/-- The entry for a transaction in the first order to watch it behind the last one not to. -/
def Counts (queue : List WatchOrder) (id : Int32) (entry : Watched) : Prop :=
  ∃ before between behind, queue = before ++ (between ++ .register id entry :: behind) ∧
    (∀ o ∈ before.getLast?, o = .unregister id) ∧
    .unregister id ∉ between ∧ (∀ entry', .register id entry' ∉ between) ∧
    .unregister id ∉ behind

/-- The orders behind the last one not to watch a transaction. -/
def latest (queue : List WatchOrder) (id : Int32) : List WatchOrder :=
  queue.rtakeWhile (· != .unregister id)

variable {queue before rest : List WatchOrder} {id : Int32} {entry : Watched}

theorem latest_append (hrest : .unregister id ∉ rest) :
    latest (before ++ rest) id = latest before id ++ rest := by
  have hall : ∀ o ∈ rest.reverse, (o != .unregister id) = true := fun o ho => by
    simpa using fun he : o = .unregister id => hrest (he ▸ List.mem_reverse.1 ho)
  rw [latest, List.rtakeWhile, List.reverse_append, List.takeWhile_append_of_pos hall,
    List.reverse_append, List.reverse_reverse]
  rfl

theorem latest_concat (o : WatchOrder) : latest (queue ++ [o]) id =
    if o = .unregister id then [] else latest queue id ++ [o] := by
  rw [latest, List.rtakeWhile_concat]
  by_cases ho : o = .unregister id <;> simp [ho, latest]

theorem latest_of_getLast? (h : ∀ o ∈ before.getLast?, o = .unregister id) :
    latest before id = [] := by
  rcases List.eq_nil_or_concat before with rfl | ⟨init, o, rfl⟩
  · rfl
  · rw [List.concat_eq_append, latest_concat, if_pos (h o (by simp))]

theorem not_mem_latest : .unregister id ∉ latest queue id := fun h => by
  simpa using List.mem_rtakeWhile_imp h

theorem exists_latest (queue : List WatchOrder) (id : Int32) : ∃ before,
    queue = before ++ latest queue id ∧ ∀ o ∈ before.getLast?, o = .unregister id := by
  refine ⟨queue.rdropWhile (· != .unregister id), List.rdropWhile_append_rtakeWhile.symm, ?_⟩
  intro o ho
  obtain ⟨hne, rfl⟩ := List.mem_getLast?_eq_getLast ho
  simpa using List.rdropWhile_last_not _ queue hne

theorem counts_iff :
    Counts queue id entry ↔ (latest queue id).findSome? (watched? id) = some entry := by
  rw [List.findSome?_eq_some_iff]
  constructor
  · rintro ⟨before, between, behind, rfl, hlast, hbetween, hfirst, hbehind⟩
    refine ⟨between, .register id entry, behind, ?_, watched?_eq_some_iff.2 rfl, fun o ho => ?_⟩
    · have hrest : .unregister id ∉ between ++ .register id entry :: behind := by simp [*]
      rw [latest_append hrest, latest_of_getLast? hlast, List.nil_append]
    · exact watched?_eq_none_iff.2 fun entry' he => hfirst entry' (he ▸ ho)
  · rintro ⟨between, o, behind, he, ho, hfirst⟩
    obtain rfl := watched?_eq_some_iff.1 ho
    obtain ⟨before, hqueue, hlast⟩ := exists_latest queue id
    have hnone : .unregister id ∉ between ++ .register id entry :: behind := he ▸ not_mem_latest
    rw [he] at hqueue
    simp only [List.mem_append, List.mem_cons, not_or] at hnone
    exact ⟨before, between, behind, hqueue, hlast, hnone.1,
      fun entry' hm => watched?_eq_none_iff.1 (hfirst _ hm) entry' rfl, hnone.2.2⟩

theorem exists_counts_iff : (∃ entry, Counts queue id entry) ↔ ∃ before entry behind,
    queue = before ++ .register id entry :: behind ∧ .unregister id ∉ behind := by
  constructor
  · rintro ⟨entry, before, between, behind, rfl, -, -, -, hbehind⟩
    exact ⟨before ++ between, entry, behind, (List.append_assoc ..).symm, hbehind⟩
  · rintro ⟨before, entry, behind, rfl, hbehind⟩
    simp only [counts_iff]
    have hrest : .unregister id ∉ .register id entry :: behind := by simpa using hbehind
    rw [← Option.isSome_iff_exists, List.findSome?_isSome_iff, latest_append hrest]
    exact ⟨.register id entry, by simp, by simp [watched?]⟩

end WatchOrder

namespace WatchList

open WatchOrder

theorem get?_carryOut (w : WatchList) (o : WatchOrder) (id : Int32) : (w.carryOut o).get? id =
    if o = .unregister id then none else (w.get? id).or (o.watched? id) := by
  cases o with
  | register id' entry =>
    rw [if_neg (by simp), carryOut, register, Table.contains, watched?]
    by_cases hid : id' = id
    · subst hid
      cases hw : w.get? id' <;> simp [hw]
    · rw [if_neg hid, Option.or_none]
      split
      · rfl
      · rw [Table.get?_insert, if_neg (Ne.symm hid)]
  | unregister id' =>
    rw [carryOut, unregister, Table.get?_erase]
    by_cases hid : id' = id
    · simp [hid]
    · simp [hid, Ne.symm hid, watched?]

theorem get?_drain (queue : List WatchOrder) (id : Int32) :
    (drain ∅ queue).get? id = (latest queue id).findSome? (watched? id) := by
  induction queue using List.reverseRecOn with
  | nil => rfl
  | append_singleton queue o ih =>
    have hstep : (drain ∅ (queue ++ [o])).get? id = ((drain ∅ queue).carryOut o).get? id := by
      rw [drain_append]
      rfl
    rw [hstep, get?_carryOut, ih, latest_concat]
    split
    · rfl
    · rw [List.findSome?_append]
      cases hentry : o.watched? id <;> simp [hentry]

theorem keys_ascend (w : WatchList) : w.keys.Pairwise (· < ·) :=
  w.sorted_keys.imp Std.compare_eq_lt.1

end WatchList

structure Attempt where
  transaction : Int32
  entry : Watched
  result : Except Error String

namespace Attempt

def notice? (a : Attempt) : Option Notice :=
  match a.result with
  | .ok _ => none
  | .error e => some (.triggerNotSent a.entry.chargePoint a.entry.connector a.transaction e)

/-- One attempt after the other, and the switchboard behind them. One that fails leaves it as it
was. -/
inductive Chain : Switchboard → List Attempt → Switchboard → Prop
  | done (s : Switchboard) : Chain s [] s
  | sent {s s' s'' id entry uniqueId as}
    (h : s.request entry.errand.1 entry.errand.2 = .ok (uniqueId, s')) (hrest : Chain s' as s'') :
    Chain s (⟨id, entry, .ok uniqueId⟩ :: as) s''
  | failed {s s' id entry e as} (h : s.request entry.errand.1 entry.errand.2 = .error e)
    (hrest : Chain s as s') : Chain s (⟨id, entry, .error e⟩ :: as) s'

end Attempt

namespace Hub

open Attempt

section Trigger

variable {p : Plant} {id : Int32} {entry : Watched}

theorem trigger_of_ok {uniqueId : String} {s : Switchboard}
    (h : p.switchboard.request entry.errand.1 entry.errand.2 = .ok (uniqueId, s)) :
    trigger p id entry = { p with switchboard := s } := by
  show p.command entry.errand.1 entry.errand.2 _ = _
  rw [Plant.command, h]

theorem trigger_of_error {e : Error}
    (h : p.switchboard.request entry.errand.1 entry.errand.2 = .error e) :
    trigger p id entry = p.note (.triggerNotSent entry.chargePoint entry.connector id e) := by
  show p.command entry.errand.1 entry.errand.2 _ = _
  rw [Plant.command, h]

end Trigger

theorem chain_foldl_trigger (entries : List (Int32 × Watched)) (p : Plant) : ∃ as s,
    Chain p.switchboard as s ∧ as.map (fun a => (a.transaction, a.entry)) = entries ∧
      entries.foldl (fun p e => trigger p e.1 e.2) p =
        { ledger := { p.ledger with journal := p.ledger.journal ++ as.filterMap notice? }
          switchboard := s } := by
  induction entries generalizing p with
  | nil => exact ⟨[], p.switchboard, .done _, rfl, by simp⟩
  | cons e rest ih =>
    obtain ⟨id, entry⟩ := e
    obtain ⟨as, s, hchain, hentries, hfold⟩ := ih (trigger p id entry)
    rw [List.foldl_cons, hfold, ← hentries]
    cases hr : p.switchboard.request entry.errand.1 entry.errand.2 with
    | ok sent =>
      rw [trigger_of_ok hr] at hchain ⊢
      exact ⟨⟨id, entry, .ok sent.1⟩ :: as, s, .sent hr hchain, rfl, rfl⟩
    | error e =>
      rw [trigger_of_error hr] at hchain ⊢
      refine ⟨⟨id, entry, .error e⟩ :: as, s, .failed hr hchain, rfl, ?_⟩
      simp [Plant.note, Ledger.note, notice?]

end Hub

/-- What becomes of a watch list: an order is sent, or the orders that were sent are carried out. -/
inductive WatchStep where
  | send (o : WatchOrder)
  | drain

def WatchStep.order? : WatchStep → Option WatchOrder
  | send o => some o
  | drain => none

namespace Hub

variable {h : Hub}

def watchStep (h : Hub) : WatchStep → Hub
  | .send o =>
    { h with plant := { h.plant with ledger := h.plant.ledger.order h.settings o } }
  | .drain => h.drain

def runWatch (h : Hub) (ms : List WatchStep) : Hub := ms.foldl watchStep h

theorem settings_watchStep (m : WatchStep) : (h.watchStep m).settings = h.settings := by
  cases m <;> rfl

theorem watch_drain_runWatch (hs : h.settings.watching = true) (ms : List WatchStep) :
    (h.runWatch ms).drain.watch = h.drain.watch.drain (ms.filterMap WatchStep.order?) := by
  induction ms generalizing h with
  | nil => rfl
  | cons m rest ih =>
    have hrest := ih (h := h.watchStep m) ((congrArg _ (settings_watchStep m)).trans hs)
    cases m with
    | send o =>
      have hsent : (h.watchStep (.send o)).drain.watch = h.drain.watch.drain [o] := by
        show h.watch.drain (h.plant.ledger.order h.settings o).queue = _
        rw [Ledger.queue_order hs, WatchList.drain_append]
        rfl
      rw [hsent, ← WatchList.drain_append] at hrest
      exact hrest
    | drain => exact hrest

end Hub

/-- Whatever orders are sent to a hub that watches, and whenever it carries out some of them: once
it has carried out all, it watches a transaction just when an order to do so stands behind the last
order not to, with the entry of the first of these orders. A round then tries one request for each
watched transaction, in ascending order, and changes nothing but the switchboard and the journal,
where the requests that failed are noted. -/
theorem round_of_orders {h : Hub} (hs : h.settings.watching = true) (hw : h.watch = ∅)
    (hq : h.plant.ledger.queue = []) (ms : List WatchStep) :
    let orders := ms.filterMap WatchStep.order?
    let h' := (h.runWatch ms).drain
    h'.watch = WatchList.drain ∅ orders ∧
      (∀ id, h'.watch.contains id = true ↔ ∃ before entry behind,
        orders = before ++ .register id entry :: behind ∧ .unregister id ∉ behind) ∧
      (∀ id entry, h'.watch.get? id = some entry ↔ WatchOrder.Counts orders id entry) ∧
      ∃ as s, Attempt.Chain h'.plant.switchboard as s ∧
        (as.map (·.transaction)).Pairwise (· < ·) ∧
        (∀ id entry, h'.watch.get? id = some entry ↔ ∃ result, ⟨id, entry, result⟩ ∈ as) ∧
        h'.tick = { h' with
          plant :=
            { ledger := { h'.plant.ledger with
                journal := h'.plant.ledger.journal ++ as.filterMap Attempt.notice? }
              switchboard := s } } := by
  have hwatch : (h.runWatch ms).drain.watch =
      WatchList.drain ∅ (ms.filterMap WatchStep.order?) := by
    have hfresh : h.drain.watch = ∅ := by
      show h.watch.drain h.plant.ledger.queue = ∅
      rw [hw, hq]
      rfl
    rw [Hub.watch_drain_runWatch hs, hfresh]
  have hget (id : Int32) (entry : Watched) : (h.runWatch ms).drain.watch.get? id = some entry ↔
      WatchOrder.Counts (ms.filterMap WatchStep.order?) id entry := by
    rw [hwatch, WatchList.get?_drain, WatchOrder.counts_iff]
  obtain ⟨as, s, hchain, hentries, hfold⟩ := Hub.chain_foldl_trigger
    (h.runWatch ms).drain.watch.entries (h.runWatch ms).drain.plant
  have hkeys : as.map (·.transaction) = (h.runWatch ms).drain.watch.keys := by
    rw [Table.keys, ← hentries, List.map_map]
    rfl
  refine ⟨hwatch, fun id => ?_, hget, as, s, hchain, ?_, fun id entry => ?_, ?_⟩
  · rw [Table.contains_iff, ← WatchOrder.exists_counts_iff]
    exact exists_congr (hget id)
  · exact hkeys ▸ WatchList.keys_ascend _
  · rw [← Table.mem_entries_iff, ← hentries, List.mem_map]
    constructor
    · rintro ⟨a, ha, he⟩
      obtain ⟨rfl, rfl⟩ := Prod.mk.inj he
      exact ⟨a.result, ha⟩
    · rintro ⟨result, ha⟩
      exact ⟨_, ha, rfl⟩
  · rw [Hub.tick, hfold]

def Hub.watchful : Hub :=
  { (default : Hub) with
    settings := { (default : Settings) with watching := true }
    plant := { ledger := default, switchboard := (({} : Switchboard).connect "CP1").2 } }

def WatchStep.shift : List WatchStep :=
  [.send (.register 10 ⟨"CP1", 1⟩), .send (.register 11 ⟨"CP1", 2⟩), .drain,
    .send (.register 11 ⟨"CP2", 5⟩), .send (.unregister 10), .send (.unregister 404), .drain,
    .send (.register 10 ⟨"CP3", 1⟩)]

/-- The round tries both transactions. The charge point of the first is not connected, which is noted;
that of the second is asked for its meter values. -/
theorem round_of_orders_shift :
    let orders := WatchStep.shift.filterMap WatchStep.order?
    let h := (Hub.watchful.runWatch WatchStep.shift).drain
    Hub.watchful.settings.watching = true ∧ Hub.watchful.watch = ∅ ∧
      Hub.watchful.plant.ledger.queue = [] ∧
      h.watch = .ofList [(10, ⟨"CP3", 1⟩), (11, ⟨"CP1", 2⟩)] ∧
      WatchOrder.Counts orders 11 ⟨"CP1", 2⟩ ∧
      (∃ as, Attempt.Chain h.plant.switchboard as h.tick.plant.switchboard ∧
        (as.map (·.transaction)).Pairwise (· < ·) ∧
        (∃ result, ⟨10, ⟨"CP3", 1⟩, result⟩ ∈ as) ∧ ∃ result, ⟨11, ⟨"CP1", 2⟩, result⟩ ∈ as) ∧
      h.tick.plant.ledger.journal = [.triggerNotSent "CP3" 1 10 (.notConnected "CP3")] ∧
      h.tick.plant.switchboard.outbox 1 =
        [(Watched.errand ⟨"CP1", 2⟩).2.encode (Switchboard.uniqueId 0 1)] := by
  intro orders h
  have hs : Hub.watchful.settings.watching = true := rfl
  obtain ⟨hwatch, -, hcounts, as, s, hchain, hascend, htried, htick⟩ :=
    round_of_orders hs rfl rfl WatchStep.shift
  have hlist : WatchList.drain ∅ orders = .ofList [(10, ⟨"CP3", 1⟩), (11, ⟨"CP1", 2⟩)] := by
    decide +kernel
  have hfirst : h.watch.get? 10 = some ⟨"CP3", 1⟩ := by decide +kernel
  have hsecond : h.watch.get? 11 = some ⟨"CP1", 2⟩ := by decide +kernel
  have hboard : h.tick.plant.switchboard = s := congrArg (·.plant.switchboard) htick
  exact ⟨rfl, rfl, rfl, hwatch.trans hlist, (hcounts 11 _).1 hsecond,
    ⟨as, hboard ▸ hchain, hascend, (htried 10 _).1 hfirst, (htried 11 _).1 hsecond⟩,
    by decide +kernel, by decide +kernel⟩

end CentralSystem
