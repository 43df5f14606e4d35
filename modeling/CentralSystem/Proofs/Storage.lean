import CentralSystem.Proofs.Table
import CentralSystem.Storage

namespace CentralSystem

namespace Database

variable (db : Database)

def addChargePoint (cp : ChargePoint) : Database :=
  if db.chargePoints.contains cp.id then db else db.putChargePoint cp

def updateChargePoint (cp : ChargePoint) : Database :=
  if db.chargePoints.contains cp.id then db.putChargePoint cp else db

def addTransaction (t : Transaction) : Database :=
  if db.transactions.contains t.id then db else db.putTransaction t

def updateTransaction (t : Transaction) : Database :=
  if db.transactions.contains t.id then db.putTransaction t else db

def limitConnector (station : String) (id : UInt32) (limit : Int32) : Database :=
  db.putConnector station { (db.connector? station id).getD { id := id } with limit := limit }

structure Keyed : Prop where
  chargePoint : ∀ s cp, db.chargePoints.get? s = some cp → cp.id = s
  connector : ∀ s i c, db.connector? s i = some c → c.id = i
  transaction : ∀ id t, db.transactions.get? id = some t → t.id = id
  location : ∀ id l, db.locations.get? id = some l → l.id = id

/-- The greatest id of a transaction on record, 0 if there is none. -/
def highestId : Int := db.lastTransaction?.elim 0 (·.id.toInt)

variable {db}

theorem connector?_putConnector (station : String) (c : Connector) (s : String) (i : UInt32) :
    (db.putConnector station c).connector? s i =
      if s = station ∧ i = c.id then some c else db.connector? s i := by
  by_cases hs : s = station
  · subst s
    simp [putConnector, connector?, connectorsOf, Table.get?_insert]
  · simp [putConnector, connector?, connectorsOf, Table.get?_insert, hs]

theorem foldl_addSample (l : List MeterSample) (db : Database) :
    ∃ samples, l.foldl addSample db = { db with samples } := by
  induction l generalizing db with
  | nil => exact ⟨db.samples, rfl⟩
  | cons s rest ih =>
    obtain ⟨samples, h⟩ := ih (db.addSample s)
    exact ⟨samples, h⟩

theorem get?_lastTransaction? {t : Transaction} (hk : db.Keyed) (h : db.lastTransaction? = some t) :
    db.transactions.get? t.id = some t := by
  obtain ⟨e, he, rfl⟩ := Option.map_eq_some_iff.1 h
  have hm : db.transactions.get? e.1 = some e.2 :=
    Table.mem_entries_iff.1 (List.mem_of_getLast? he)
  rwa [hk.transaction _ _ hm]

theorem le_highestId (hk : db.Keyed) {id : Int32} {t : Transaction}
    (h : db.transactions.get? id = some t) : id.toInt ≤ db.highestId := by
  have hm := Table.mem_entries_iff.2 h
  obtain ⟨e, he⟩ := Option.isSome_iff_exists.1 (List.getLast?_isSome.2 (List.ne_nil_of_mem hm))
  have hid : e.2.id = e.1 := hk.transaction _ _ (Table.mem_entries_iff.1 (List.mem_of_getLast? he))
  simp only [highestId, lastTransaction?, he, Option.map_some, Option.elim_some, hid]
  rcases Table.le_of_getLast? he h with hk | hlt
  · exact Int.le_of_eq (congrArg Int32.toInt hk)
  · exact Int.le_of_lt (Int32.lt_iff_toInt_lt.1 (Std.compare_eq_lt.1 hlt))

theorem highestId_eq (hk : db.Keyed) {id : Int32} {t : Transaction}
    (h : db.transactions.get? id = some t)
    (hmax : ∀ id' t', db.transactions.get? id' = some t' → id'.toInt ≤ id.toInt) :
    db.highestId = id.toInt := by
  have hle := le_highestId hk h
  have hm := Table.mem_entries_iff.2 h
  obtain ⟨e, he⟩ := Option.isSome_iff_exists.1 (List.getLast?_isSome.2 (List.ne_nil_of_mem hm))
  have hlast : db.lastTransaction? = some e.2 := by simp [lastTransaction?, he]
  have hge := hmax _ _ (get?_lastTransaction? hk hlast)
  simp only [highestId, hlast, Option.elim_some] at hle ⊢
  omega

section Keyed

variable (hk : db.Keyed)
include hk

theorem Keyed.putChargePoint (cp : ChargePoint) : (db.putChargePoint cp).Keyed where
  chargePoint s cp' h := by
    rw [Database.putChargePoint, Table.get?_insert] at h
    split at h
    · obtain rfl := Option.some.inj h
      rename_i hs
      exact hs.symm
    · exact hk.chargePoint s cp' h
  connector := hk.connector
  transaction := hk.transaction
  location := hk.location

theorem Keyed.putConnector (station : String) (c : Connector) :
    (db.putConnector station c).Keyed where
  chargePoint := hk.chargePoint
  connector s i c' h := by
    rw [connector?_putConnector] at h
    split at h
    · obtain rfl := Option.some.inj h
      rename_i hs
      exact hs.2.symm
    · exact hk.connector s i c' h
  transaction := hk.transaction
  location := hk.location

theorem Keyed.putTransaction (t : Transaction) : (db.putTransaction t).Keyed where
  chargePoint := hk.chargePoint
  connector := hk.connector
  transaction id t' h := by
    rw [Database.putTransaction, Table.get?_insert] at h
    split at h
    · obtain rfl := Option.some.inj h
      rename_i hs
      exact hs.symm
    · exact hk.transaction id t' h
  location := hk.location

theorem Keyed.addChargePoint (cp : ChargePoint) : (db.addChargePoint cp).Keyed := by
  unfold Database.addChargePoint
  split
  · exact hk
  · exact hk.putChargePoint cp

theorem Keyed.updateChargePoint (cp : ChargePoint) : (db.updateChargePoint cp).Keyed := by
  unfold Database.updateChargePoint
  split
  · exact hk.putChargePoint cp
  · exact hk

theorem Keyed.addTransaction (t : Transaction) : (db.addTransaction t).Keyed := by
  unfold Database.addTransaction
  split
  · exact hk
  · exact hk.putTransaction t

theorem Keyed.updateTransaction (t : Transaction) : (db.updateTransaction t).Keyed := by
  unfold Database.updateTransaction
  split
  · exact hk.putTransaction t
  · exact hk

theorem highestId_congr {db' : Database} (hk' : db'.Keyed)
    (h : ∀ id, db'.transactions.contains id = db.transactions.contains id) :
    db'.highestId = db.highestId := by
  have hsub {d d' : Database} (hd : d.Keyed) (hd' : d'.Keyed)
      (hc : ∀ id, d'.transactions.contains id = d.transactions.contains id) {t : Transaction}
      (ht : d.lastTransaction? = some t) : d'.highestId = d.highestId := by
    have hlast := get?_lastTransaction? hd ht
    obtain ⟨t', ht'⟩ := Table.contains_iff.1 ((hc _).trans (Table.contains_iff.2 ⟨t, hlast⟩))
    have hhigh : d.highestId = t.id.toInt := by simp [highestId, ht]
    rw [hhigh]
    refine highestId_eq hd' ht' fun id' t'' h'' => ?_
    obtain ⟨_, hold⟩ := Table.contains_iff.1
      ((hc id').symm.trans (Table.contains_iff.2 ⟨t'', h''⟩))
    exact hhigh ▸ le_highestId hd hold
  cases hl : db.lastTransaction? with
  | some t => exact hsub hk hk' h hl
  | none =>
    cases hl' : db'.lastTransaction? with
    | some t => exact (hsub hk' hk (fun id => (h id).symm) hl').symm
    | none => simp [highestId, hl, hl']

end Keyed

@[simp] theorem connectors_addChargePoint (cp : ChargePoint) :
    (db.addChargePoint cp).connectors = db.connectors := by
  unfold addChargePoint
  split <;> rfl

@[simp] theorem transactions_addChargePoint (cp : ChargePoint) :
    (db.addChargePoint cp).transactions = db.transactions := by
  unfold addChargePoint
  split <;> rfl

@[simp] theorem connectors_updateChargePoint (cp : ChargePoint) :
    (db.updateChargePoint cp).connectors = db.connectors := by
  unfold updateChargePoint
  split <;> rfl

@[simp] theorem transactions_updateChargePoint (cp : ChargePoint) :
    (db.updateChargePoint cp).transactions = db.transactions := by
  unfold updateChargePoint
  split <;> rfl

@[simp] theorem chargePoints_addTransaction (t : Transaction) :
    (db.addTransaction t).chargePoints = db.chargePoints := by
  unfold addTransaction
  split <;> rfl

@[simp] theorem locations_addTransaction (t : Transaction) :
    (db.addTransaction t).locations = db.locations := by
  unfold addTransaction
  split <;> rfl

@[simp] theorem chargePoints_updateTransaction (t : Transaction) :
    (db.updateTransaction t).chargePoints = db.chargePoints := by
  unfold updateTransaction
  split <;> rfl

@[simp] theorem locations_updateTransaction (t : Transaction) :
    (db.updateTransaction t).locations = db.locations := by
  unfold updateTransaction
  split <;> rfl

@[simp] theorem chargePoints_putConnector (station : String) (c : Connector) :
    (db.putConnector station c).chargePoints = db.chargePoints := rfl

@[simp] theorem locations_putConnector (station : String) (c : Connector) :
    (db.putConnector station c).locations = db.locations := rfl

theorem contains_addTransaction (t : Transaction) (id : Int32) :
    (db.addTransaction t).transactions.contains id =
      (id == t.id || db.transactions.contains id) := by
  unfold addTransaction
  split
  · rename_i h
    by_cases hid : id = t.id <;> simp [hid, h]
  · by_cases hid : id = t.id <;> simp [putTransaction, Table.contains, Table.get?_insert, hid]

theorem contains_updateTransaction (t : Transaction) (id : Int32) :
    (db.updateTransaction t).transactions.contains id = db.transactions.contains id := by
  unfold updateTransaction
  split
  · rename_i h
    by_cases hid : id = t.id
    · simp only [putTransaction, Table.contains, Table.get?_insert, hid, ↓reduceIte] at h ⊢
      exact h.symm
    · simp [putTransaction, Table.contains, Table.get?_insert, hid]
  · rfl

end Database

namespace Storage

theorem eq_of_broken_eq_nil {s : Storage} (h : s.broken = []) : s = { database := s.database } := by
  cases s
  cases h
  rfl

/-- Whether an operation works, or else fails. -/
def Works (s : Storage) (operation : StorageOperation) : Prop := operation.name ∉ s.broken

instance (s : Storage) (operation : StorageOperation) : Decidable (s.Works operation) :=
  inferInstanceAs (Decidable (operation.name ∉ s.broken))

theorem works_of_broken_eq_nil {s : Storage} (h : s.broken = []) (operation : StorageOperation) :
    s.Works operation := by
  simp [Works, h]

theorem attempt_of_works {s : Storage} {operation : StorageOperation} (h : s.Works operation)
    (result : Except Error α) : s.attempt operation result = result :=
  if_neg h

theorem attempt_of_not_works {s : Storage} {operation : StorageOperation} (h : ¬s.Works operation)
    (result : Except Error α) : s.attempt operation result =
      .error (.database ("injected fault in " ++ operation.name)) :=
  if_pos (Decidable.not_not.1 h)

theorem attempt_of_broken_eq_nil {s : Storage} (h : s.broken = []) (operation : StorageOperation)
    (result : Except Error α) : s.attempt operation result = result :=
  attempt_of_works (works_of_broken_eq_nil h operation) result

end Storage

end CentralSystem
