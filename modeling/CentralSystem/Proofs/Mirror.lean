import CentralSystem.Proofs.Run

namespace CentralSystem

theorem backed_runHandlers {db : Database} (hc : db.Consistent) :
    ∃ l, Ledger.load { database := db } = .ok l ∧ ∀ h : Hub, h.plant.ledger = l →
      ∀ ws, db.highestId + opened (h.runHandlers ws).1 ≤ 2 ^ 31 - 1 →
        (h.runHandlers ws).2.plant.ledger.registry.Backed
            (h.runHandlers ws).2.plant.ledger.database ∧
        (h.runHandlers ws).2.plant.ledger.database.highestId =
            db.highestId + opened (h.runHandlers ws).1 ∧
        (h.runHandlers ws).2.plant.ledger.storage.broken = [] := by
  obtain ⟨l, hl, hs, hloads⟩ := Ledger.load_ok hc.keyed
  refine ⟨l, hl, ?_⟩
  rintro h rfl ws hn
  have hb : h.plant.ledger.registry.Backed h.plant.ledger.database := by
    rw [Ledger.database, hs]
    exact hloads.backed hc
  have hw : h.plant.ledger.storage.broken = [] := by rw [hs]
  have hrun := Hub.changes_runHandlers hw (Ledger.keyed_of_backed hb) ws
  have hdb : h.plant.ledger.quiet.database = db := congrArg Storage.database hs
  obtain ⟨hlast, hhigh⟩ := hrun.backed hb (by rw [hdb]; exact hn)
  rw [hdb] at hhigh
  exact ⟨hlast, hhigh, hrun.broken.trans hw⟩

namespace Registry

/-- The links between connectors and transactions: an active connector has an open transaction that
names it, no two connectors have the same, and closed transactions are not kept. -/
structure Linked (r : Registry) : Prop where
  held : ∀ s i c, r.connector? s i = some c → c.isActive = true →
    ∃ t, r.transactions.get? c.transaction = some t ∧ t.isFinished = false ∧
      t.chargePoint = s ∧ t.connector = i ∧ c.id = i
  exclusive : ∀ s i c s' i' c', r.connector? s i = some c → c.isActive = true →
    r.connector? s' i' = some c' → c'.transaction = c.transaction → s' = s ∧ i' = i
  isOpen : ∀ id t, r.transactions.get? id = some t → t.isFinished = false ∧ t.id = id

theorem Backed.linked_registry {r : Registry} {db : Database} (h : r.Backed db) : r.Linked where
  held s i c hc ha := by
    obtain ⟨t, ht, hs, hi⟩ := h.linked s i c hc ha
    exact ⟨t, ht, (h.transaction _ t ht).2, hs, hi, h.id_of_connector hc⟩
  exclusive s i c s' i' c' hc ha hc' he := by
    have ha' : c'.isActive = true := by rwa [Connector.isActive, he]
    exact h.exclusive hc ha hc' ha' he
  isOpen id t ht := ⟨(h.transaction id t ht).2, h.id_of_transaction ht⟩

end Registry

/-- On a run from a load, connectors and transactions stay linked one to one. -/
theorem linked_runHandlers {db : Database} (hc : db.Consistent) :
    ∃ l, Ledger.load { database := db } = .ok l ∧ ∀ h : Hub, h.plant.ledger = l →
      ∀ ws, db.highestId + opened (h.runHandlers ws).1 ≤ 2 ^ 31 - 1 →
        (h.runHandlers ws).2.plant.ledger.registry.Linked := by
  obtain ⟨l, hl, hrun⟩ := backed_runHandlers hc
  exact ⟨l, hl, fun h hh ws hn => (hrun h hh ws hn).1.linked_registry⟩

theorem linked_runHandlers_depot :
    (Hub.depot.runHandlers (HandlerStep.depot .epoch)).2.plant.ledger.registry.Linked := by
  obtain ⟨l, hl, hrun⟩ := linked_runHandlers Database.consistent_depot
  obtain rfl : Ledger.depot = l := Except.ok.inj (Ledger.load_depot.symm.trans hl)
  exact hrun .depot rfl (HandlerStep.depot .epoch) (by rw [opened_depot]; decide)

namespace Ledger

/-- The registry holds what is on record: the charge points up to when they were last seen, the
connectors with their limits and transactions, and the transactions. -/
structure Mirrored (l : Ledger) : Prop where
  chargePoint : ∀ s, (l.registry.chargePoint? s).map ChargePoint.unseen =
    (l.database.chargePoints.get? s).map ChargePoint.unseen
  connector : ∀ s i c, l.registry.connector? s i = some c →
    c.id = i ∧ l.database.connector? s i = some c
  transaction : ∀ id t, l.registry.transactions.get? id = some t →
    l.database.transactions.get? id = some t

theorem mirrored_of_backed {l : Ledger} (h : l.registry.Backed l.database) : l.Mirrored where
  chargePoint := h.chargePoint
  connector s i _ hc := ⟨h.id_of_connector hc, (h.connector s i).symm.trans hc⟩
  transaction id t ht := (h.transaction id t ht).1

end Ledger

/-- On a run from a load, whatever the registry holds is what is on record. -/
theorem mirrored_runHandlers {db : Database} (hc : db.Consistent) :
    ∃ l, Ledger.load { database := db } = .ok l ∧ ∀ h : Hub, h.plant.ledger = l →
      ∀ ws, db.highestId + opened (h.runHandlers ws).1 ≤ 2 ^ 31 - 1 →
        (h.runHandlers ws).2.plant.ledger.Mirrored := by
  obtain ⟨l, hl, hrun⟩ := backed_runHandlers hc
  exact ⟨l, hl, fun h hh ws hn => Ledger.mirrored_of_backed (hrun h hh ws hn).1⟩

theorem mirrored_runHandlers_depot :
    (Hub.depot.runHandlers (HandlerStep.depot .epoch)).2.plant.ledger.Mirrored := by
  obtain ⟨l, hl, hrun⟩ := mirrored_runHandlers Database.consistent_depot
  obtain rfl : Ledger.depot = l := Except.ok.inj (Ledger.load_depot.symm.trans hl)
  exact hrun .depot rfl (HandlerStep.depot .epoch) (by rw [opened_depot]; decide)

end CentralSystem
