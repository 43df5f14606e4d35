import CentralSystem.Proofs.Table
import CentralSystem.Registry

namespace CentralSystem.Registry

variable {r : Registry}

theorem knows_iff {s : String} : r.knows s = true ↔ ∃ cp, r.chargePoint? s = some cp := by
  simp only [knows, Table.contains_iff, chargePoint?, Option.map_eq_some_iff]
  constructor
  · rintro ⟨x, hx⟩
    exact ⟨_, x, hx, rfl⟩
  · rintro ⟨_, x, hx, _⟩
    exact ⟨x, hx⟩

theorem knows_of_connector? {s : String} {i : UInt32} {c : Connector}
    (h : r.connector? s i = some c) : r.knows s = true := by
  obtain ⟨x, hx, _⟩ := Option.bind_eq_some_iff.1 h
  simp [knows, Table.contains, hx]

theorem register_of_knows {cp : ChargePoint} (h : r.knows cp.id = true) : r.register cp = r := by
  simp [register, h]

@[simp] theorem transactions_register (cp : ChargePoint) :
    (r.register cp).transactions = r.transactions := by
  unfold register
  split <;> rfl

@[simp] theorem nextId_register (cp : ChargePoint) : (r.register cp).nextId = r.nextId := by
  unfold register
  split <;> rfl

theorem chargePoint?_register {cp : ChargePoint} (h : r.knows cp.id = false) (s : String) :
    (r.register cp).chargePoint? s = if s = cp.id then some cp else r.chargePoint? s := by
  by_cases hs : s = cp.id <;> simp [register, h, chargePoint?, Table.get?_insert, hs]

@[simp] theorem connector?_register (cp : ChargePoint) (s : String) (i : UInt32) :
    (r.register cp).connector? s i = r.connector? s i := by
  unfold register
  split
  · rfl
  · rename_i h
    by_cases hs : s = cp.id
    · subst s
      have hn : r.stations.get? cp.id = none := by simpa [knows, Table.contains] using h
      simp [connector?, hn]
    · simp [connector?, Table.get?_insert, hs]

theorem chargePoint?_setChargePoint (cp : ChargePoint) (s : String) :
    (r.setChargePoint cp).chargePoint? s =
      if s = cp.id then (r.chargePoint? s).map fun _ => cp else r.chargePoint? s := by
  by_cases hs : s = cp.id
  · subst s
    simp [setChargePoint, chargePoint?, Table.get?_modify, Function.comp_def]
  · simp [setChargePoint, chargePoint?, Table.get?_modify, hs]

@[simp] theorem connector?_setChargePoint (cp : ChargePoint) (s : String) (i : UInt32) :
    (r.setChargePoint cp).connector? s i = r.connector? s i := by
  by_cases hs : s = cp.id
  · subst s
    cases h : r.stations.get? cp.id <;> simp [setChargePoint, connector?, Table.get?_modify, h]
  · simp [setChargePoint, connector?, Table.get?_modify, hs]

@[simp] theorem chargePoint?_setConnector (owner : String) (c : Connector) (s : String) :
    (r.setConnector owner c).chargePoint? s = r.chargePoint? s := by
  by_cases hs : s = owner
  · subst s
    cases h : r.stations.get? owner <;> simp [setConnector, chargePoint?, Table.get?_modify, h]
  · simp [setConnector, chargePoint?, Table.get?_modify, hs]

theorem connector?_setConnector {owner : String} (h : r.knows owner = true) (c : Connector)
    (s : String) (i : UInt32) :
    (r.setConnector owner c).connector? s i =
      if s = owner ∧ i = c.id then some c else r.connector? s i := by
  obtain ⟨x, hx⟩ := Table.contains_iff.1 h
  by_cases hs : s = owner
  · subst s
    simp [setConnector, connector?, Table.get?_modify, hx, Table.get?_insert]
  · simp [setConnector, connector?, Table.get?_modify, hs]

@[simp] theorem chargePoint?_removeTransaction (id : Int32) (s : String) :
    (r.removeTransaction id).chargePoint? s = r.chargePoint? s := rfl

/-- Whoever was removed had to be there once: putting a transaction first makes no difference. -/
theorem removeTransaction_putTransaction (t : Transaction) :
    (r.putTransaction t).removeTransaction t.id = r.removeTransaction t.id := by
  simp [putTransaction, removeTransaction, Table.erase_insert]

structure Keyed (r : Registry) : Prop where
  chargePoint : ∀ s cp, r.chargePoint? s = some cp → cp.id = s
  connector : ∀ s i c, r.connector? s i = some c → c.id = i
  transaction : ∀ id t, r.transactions.get? id = some t → t.id = id

namespace Keyed

variable (h : r.Keyed)
include h

theorem register (cp : ChargePoint) : (r.register cp).Keyed := by
  by_cases hk : r.knows cp.id = true
  · rwa [register_of_knows hk]
  · refine
      { chargePoint := fun s x hx => ?_
        connector := fun s i c hc => h.connector s i c (connector?_register cp s i ▸ hc)
        transaction := fun id t ht => h.transaction id t (transactions_register cp ▸ ht) }
    rw [chargePoint?_register (by simpa using hk)] at hx
    split at hx
    · rename_i hs
      exact Option.some.inj hx ▸ hs.symm
    · exact h.chargePoint s x hx

theorem setChargePoint (cp : ChargePoint) : (r.setChargePoint cp).Keyed where
  chargePoint s x hx := by
    rw [chargePoint?_setChargePoint] at hx
    split at hx
    · rename_i hs
      obtain ⟨_, _, rfl⟩ := Option.map_eq_some_iff.1 hx
      exact hs.symm
    · exact h.chargePoint s x hx
  connector s i c hc := h.connector s i c (connector?_setChargePoint cp s i ▸ hc)
  transaction := h.transaction

theorem setConnector {station : String} (hk : r.knows station = true) (c : Connector) :
    (r.setConnector station c).Keyed where
  chargePoint s x hx := h.chargePoint s x (chargePoint?_setConnector station c s ▸ hx)
  connector s i x hx := by
    rw [connector?_setConnector hk] at hx
    split at hx
    · rename_i hs
      exact Option.some.inj hx ▸ hs.2.symm
    · exact h.connector s i x hx
  transaction := h.transaction

theorem putTransaction (t : Transaction) : (r.putTransaction t).Keyed where
  chargePoint := h.chargePoint
  connector := h.connector
  transaction id x hx := by
    rw [Registry.putTransaction, Table.get?_insert] at hx
    split at hx
    · rename_i hs
      exact Option.some.inj hx ▸ hs.symm
    · exact h.transaction id x hx

theorem removeTransaction (id : Int32) : (r.removeTransaction id).Keyed where
  chargePoint := h.chargePoint
  connector := h.connector
  transaction id' x hx := by
    rw [Registry.removeTransaction, Table.get?_erase] at hx
    split at hx
    · cases hx
    · exact h.transaction id' x hx

end Keyed

end CentralSystem.Registry
