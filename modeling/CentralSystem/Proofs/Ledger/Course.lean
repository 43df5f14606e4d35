import CentralSystem.Proofs.Ledger.Backed

namespace CentralSystem

namespace Event

/-- The transaction of whose start an event tells. -/
def startOf? : Event → Option Int32
  | .transactionStarted _ _ id .. => some id
  | _ => none

def stopOf? : Event → Option Int32
  | .transactionStopped _ _ id .. => some id
  | _ => none

def startsOf (id : Int32) (es : List Event) : List Event := es.filter (·.startOf? == some id)

def stopsOf (id : Int32) (es : List Event) : List Event := es.filter (·.stopOf? == some id)

end Event

open Event

/-- What can become of the record of one transaction, with the events that tell of its start and of
its stop meanwhile. -/
inductive Transaction.Course :
    Option Transaction → Option Transaction → List Event → List Event → Prop
  | absent : Course none none [] []
  | unchanged (t : Transaction) : Course (some t) (some t) [] []
  | opened {t : Transaction} (ho : t.isFinished = false) : Course none (some t) [.ofStart t] []
  | closed {t t' : Transaction} (now : Timestamp) (ho : t.isFinished = false)
      (hf : t'.isFinished = true) (hs : t'.chargePoint = t.chargePoint)
      (hi : t'.connector = t.connector) : Course (some t) (some t') [] [.ofStop t' now]
  | openedClosed {t t' : Transaction} (now : Timestamp) (ho : t.isFinished = false)
      (hf : t'.isFinished = true) (hs : t'.chargePoint = t.chargePoint)
      (hi : t'.connector = t.connector) : Course none (some t') [.ofStart t] [.ofStop t' now]

namespace Transaction.Course

theorem refl (t? : Option Transaction) : Course t? t? [] [] := by
  cases t? with
  | none => exact .absent
  | some t => exact .unchanged t

/-- Nothing follows on a stop, so that two courses on end are one of them. -/
theorem trans {a b c : Option Transaction} {starts stops starts' stops' : List Event}
    (h : Course a b starts stops) (h' : Course b c starts' stops') :
    Course a c (starts ++ starts') (stops ++ stops') := by
  cases h with
  | absent => exact h'
  | unchanged => exact h'
  | opened ho =>
    cases h' with
    | unchanged => exact .opened ho
    | closed now _ hf hs hi => exact .openedClosed now ho hf hs hi
  | closed now ho hf hs hi =>
    cases h' with
    | unchanged => exact .closed now ho hf hs hi
    | closed _ ho' => exact absurd hf (by simp [ho'])
  | openedClosed now ho hf hs hi =>
    cases h' with
    | unchanged => exact .openedClosed now ho hf hs hi
    | closed _ ho' => exact absurd hf (by simp [ho'])

end Transaction.Course

namespace Ledger

/-- The events from one ledger to a later one tell the course of each transaction. -/
def Tells (l l' : Ledger) : Prop :=
  ∃ es, l'.events = l.events ++ es ∧ ∀ id, Transaction.Course (l.database.transactions.get? id)
    (l'.database.transactions.get? id) (startsOf id es) (stopsOf id es)

namespace Tells

theorem of_eq {l l' : Ledger} (he : l'.events = l.events)
    (ht : l'.database.transactions = l.database.transactions) : l.Tells l' :=
  ⟨[], by simp [he], fun id => ht ▸ .refl _⟩

theorem trans {l l' l'' : Ledger} (h : l.Tells l') (h' : l'.Tells l'') : l.Tells l'' := by
  obtain ⟨es, he, hc⟩ := h
  obtain ⟨es', he', hc'⟩ := h'
  refine ⟨es ++ es', by rw [he', he, List.append_assoc], fun id => ?_⟩
  have hcourse := (hc id).trans (hc' id)
  simpa only [startsOf, stopsOf, List.filter_append] using hcourse

theorem of_publish {l : Ledger} {e : Event} (he : e.isOfTransaction = false) :
    l.Tells (l.publish e) := by
  refine ⟨[e], rfl, fun id => ?_⟩
  have hno : startsOf id [e] = [] ∧ stopsOf id [e] = [] := by
    cases e with
    | transactionStarted => cases he
    | transactionStopped => cases he
    | _ => exact ⟨rfl, rfl⟩
  rw [hno.1, hno.2]
  exact .refl _

theorem of_start {l l' : Ledger} {t : Transaction} (he : l'.events = l.events ++ [.ofStart t])
    (hnew : l.database.transactions.get? t.id = none) (ho : t.isFinished = false)
    (ht : l'.database.transactions = l.database.transactions.insert t.id t) : l.Tells l' := by
  refine ⟨[.ofStart t], he, fun id => ?_⟩
  rw [ht, Table.get?_insert]
  by_cases hid : id = t.id
  · subst hid
    rw [if_pos rfl, hnew]
    simpa [startsOf, stopsOf, Event.ofStart, startOf?, stopOf?] using
      Transaction.Course.opened ho
  · have hne : t.id ≠ id := fun h => hid h.symm
    rw [if_neg hid]
    simpa [startsOf, stopsOf, Event.ofStart, startOf?, stopOf?, hne] using
      Transaction.Course.refl (l.database.transactions.get? id)

theorem of_stop {l l' : Ledger} {t t' : Transaction} (now : Timestamp)
    (he : l'.events = l.events ++ [.ofStop t' now])
    (hr : l.database.transactions.get? t'.id = some t) (ho : t.isFinished = false)
    (hf : t'.isFinished = true) (hs : t'.chargePoint = t.chargePoint)
    (hi : t'.connector = t.connector)
    (ht : l'.database.transactions = l.database.transactions.insert t'.id t') : l.Tells l' := by
  refine ⟨[.ofStop t' now], he, fun id => ?_⟩
  rw [ht, Table.get?_insert]
  by_cases hid : id = t'.id
  · subst hid
    rw [if_pos rfl, hr]
    simpa [startsOf, stopsOf, Event.ofStop, startOf?, stopOf?] using
      Transaction.Course.closed now ho hf hs hi
  · have hne : t'.id ≠ id := fun h => hid h.symm
    rw [if_neg hid]
    simpa [startsOf, stopsOf, Event.ofStop, startOf?, stopOf?, hne] using
      Transaction.Course.refl (l.database.transactions.get? id)

end Tells

@[simp] theorem events_order (settings : Settings) (l : Ledger) (o : WatchOrder) :
    (l.order settings o).events = l.events := by
  unfold order
  split <;> rfl

@[simp] theorem events_publish (l : Ledger) (e : Event) :
    (l.publish e).events = l.events ++ [e] := rfl

end Ledger

open Ledger

theorem Change.tells {settings : Settings} {sharing : Bool} {n : Nat} {l l' : Ledger}
    (hc : Change settings sharing n l l') (h : l.registry.Backed l.database)
    (hn : l.database.highestId + n ≤ 2 ^ 31 - 1) : l.Tells l' := by
  have hadd {t : Transaction} (hlt : l.database.highestId < 2 ^ 31 - 1)
      (hid : t.id = l.registry.nextId) : (l.database.addTransaction t).transactions =
        l.database.transactions.insert t.id t := by
    rw [h.addTransaction_eq hlt hid]
    rfl
  have hclose {t t' : Transaction} (hr : l.record? t.id = some t) (hid : t'.id = t.id)
      {d : Database} (hd : d.transactions = l.database.transactions) :
      l.database.transactions.get? t'.id = some t ∧
        (d.updateTransaction t').transactions = l.database.transactions.insert t'.id t' := by
    rw [record?_of_backed h, ← hid] at hr
    refine ⟨hr, ?_⟩
    rw [Database.updateTransaction, hd, if_pos (Table.contains_iff.2 ⟨t, hr⟩), ← hd]
    rfl
  cases hc with
  | publish he => exact .of_publish he
  | tag => exact .of_eq rfl rfl
  | samples samples =>
    obtain ⟨s, hs⟩ := Database.foldl_addSample samples l.database
    exact .of_eq rfl (by simp only [database, storage_setDatabase, hs])
  | enroll => exact .of_eq rfl (Database.transactions_addChargePoint _)
  | see => exact .of_eq rfl rfl
  | amend => exact .of_eq rfl (Database.transactions_updateChargePoint _)
  | report => exact .of_eq rfl rfl
  | release =>
    apply Tells.of_eq
    · simp only [events_order]
      rfl
    · simp only [database, storage_order]
      rfl
  | @enter _ t hid ho =>
    have hlt : l.database.highestId < 2 ^ 31 - 1 := by omega
    apply Tells.of_start (t := t) _ (hid ▸ h.get?_nextId hlt) ho
    · simp only [database, storage_order, storage_publish, storage_enter]
      exact hadd hlt hid
    · simp only [events_order]
      rfl
  | @occupy _ t c hid ho =>
    have hlt : l.database.highestId < 2 ^ 31 - 1 := by omega
    apply Tells.of_start (t := t) _ (hid ▸ h.get?_nextId hlt) ho
    · simp only [database, storage_order, storage_publish, storage_putConnector, storage_enter]
      exact hadd hlt hid
    · simp only [events_order]
      rfl
  | @displace _ t c hid ho =>
    have hlt : l.database.highestId < 2 ^ 31 - 1 := by omega
    apply Tells.of_start (t := t) _ (hid ▸ h.get?_nextId hlt) ho
    · simp only [database, storage_order, storage_publish, storage_forget, storage_putConnector,
        storage_enter]
      exact hadd hlt hid
    · simp only [events_order, events_publish]
      rfl
  | @close _ t t' c now hr ho hid hs hi hf =>
    obtain ⟨hrec, hput⟩ := hclose hr hid
      (d := l.database.putConnector t.chargePoint { c with transaction := noTransaction }) rfl
    apply Tells.of_stop now _ hrec ho hf hs hi
    · simp only [database, storage_order, storage_publish, storage_settle, storage_putConnector]
      exact hput
    · simp only [events_order]
      rfl
  | @closeLoose _ t t' now hr ho hid hs hi hf =>
    obtain ⟨hrec, hput⟩ := hclose hr hid rfl
    apply Tells.of_stop now _ hrec ho hf hs hi
    · simp only [database, storage_order, storage_publish, storage_settle]
      exact hput
    · simp only [events_order]
      rfl
  | discard => exact .of_eq rfl rfl
  | limit => exact .of_eq rfl rfl

theorem Changes.tells {settings : Settings} {sharing : Bool} {n : Nat} {l l' : Ledger}
    (hc : Changes settings sharing n l l') (h : l.registry.Backed l.database)
    (hn : l.database.highestId + n ≤ 2 ^ 31 - 1) : l.Tells l' := by
  induction hc with
  | refl => exact .of_eq rfl rfl
  | tail hs hstep ih =>
    obtain ⟨hmid, hhigh⟩ := hs.backed h (by omega)
    exact (ih h (by omega)).trans (hstep.tells hmid (by omega))

end CentralSystem
