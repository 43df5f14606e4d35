import CentralSystem.Event
import CentralSystem.Notice
import CentralSystem.Registry
import CentralSystem.Settings
import CentralSystem.Watch

namespace CentralSystem

structure Ledger where
  registry : Registry := {}
  storage : Storage
  /-- Orders for the watch list, oldest first. -/
  queue : List WatchOrder := []
  /-- What was published, oldest first. -/
  events : List Event := []
  /-- What was noted, oldest first. -/
  journal : List Notice := []
deriving DecidableEq, Inhabited

namespace Ledger

def note (l : Ledger) (n : Notice) : Ledger := { l with journal := l.journal ++ [n] }

def publish (l : Ledger) (e : Event) : Ledger := { l with events := l.events ++ [e] }

def order (l : Ledger) (settings : Settings) (o : WatchOrder) : Ledger :=
  if settings.watching then { l with queue := l.queue ++ [o] } else l

def write (l : Ledger) (result : Except Error Storage) (failed : Error → Notice) : Ledger :=
  match result with
  | .ok storage => { l with storage }
  | .error e => l.note (failed e)

def setRegistry (l : Ledger) (r : Registry) : Ledger := { l with registry := r }

def saveChargePoint (l : Ledger) (cp : ChargePoint) : Ledger :=
  l.write (l.storage.updateChargePoint cp) (.notPersisted "update_charge_point" cp.id)

def saveConnector (l : Ledger) (station : String) (c : Connector) : Ledger :=
  l.write (l.storage.updateConnector station c) (.notPersisted "update_connector" station)

/-- Forgets a transaction whose connector dropped it. It stays open in the storage, where a late stop
finds it. -/
def release (l : Ledger) (settings : Settings) (transaction : Int32) : Ledger :=
  ({ l with registry := l.registry.removeTransaction transaction }).order settings
    (.unregister transaction)

/-- The ledger that starts from what is stored: every charge point with its connectors, and the open
transactions that they name. -/
def load (storage : Storage) : Except Error Ledger := do
  let last ← storage.lastTransaction?
  let nextId := last.elim 1 fun t => .ofIntClamp (t.id.toInt + 1)
  (← storage.chargePoints).foldlM loadStation
    { registry := { nextId }, storage }
where
  loadStation (l : Ledger) (cp : ChargePoint) : Except Error Ledger := do
    (← storage.connectors cp.id).foldlM (loadConnector cp.id)
      { l with registry := l.registry.register cp }
  loadConnector (station : String) (l : Ledger) (c : Connector) : Except Error Ledger := do
    let l ←
      if c.isActive then do
        match ← storage.transaction? c.transaction with
        | some t =>
          if t.isFinished then pure (l.note (.danglingLink c.id c.transaction))
          else pure { l with registry := l.registry.putTransaction t }
        | none => pure (l.note (.danglingLink c.id c.transaction))
      else pure l
    return { l with registry := l.registry.setConnector station c }

end Ledger

end CentralSystem
