import CentralSystem.Proofs.Watch
import CentralSystem.Proofs.Ledger.Closing

namespace CentralSystem

namespace Database

/-- Whether a transaction is on record and open. -/
def isOpen (db : Database) (id : Int32) : Bool :=
  (db.transactions.get? id).any fun t => !t.isFinished

end Database

namespace Registry

section Loads

variable {db : Database} {r : Registry} (h : r.Loads db (Stored db) fun s _ => Stored db s)
include h

theorem Loads.stations (hk : db.Keyed) :
    r.stations = db.chargePoints.map fun cp => ⟨cp, db.connectorsOf cp.id⟩ := by
  refine Table.ext_get? fun s => ?_
  rw [Table.get?_map]
  cases hs : r.stations.get? s with
  | none =>
    cases hcp : db.chargePoints.get? s with
    | none => rfl
    | some cp =>
      have hstored := (h.chargePoint s cp).2 ⟨Table.contains_iff.2 ⟨cp, hcp⟩, hcp⟩
      rw [chargePoint?, hs] at hstored
      cases hstored
  | some station =>
    obtain ⟨cp, connectors⟩ := station
    obtain ⟨hstored, hcp⟩ := (h.chargePoint s cp).1 (by rw [chargePoint?, hs]; rfl)
    have hconnectors : connectors = db.connectorsOf s := by
      refine Table.ext_get? fun i => Option.ext fun c => ?_
      have hc := h.connector s i c
      rw [connector?, hs] at hc
      exact hc.trans (and_iff_right hstored)
    rw [hcp, hconnectors, ← hk.chargePoint s cp hcp]
    rfl

end Loads

end Registry

namespace Ledger

variable (db : Database)

variable {db}

end Ledger

namespace Ledger

end Ledger

end CentralSystem
