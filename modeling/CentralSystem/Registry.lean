import CentralSystem.Storage

namespace CentralSystem

structure Station where
  chargePoint : ChargePoint
  connectors : Table UInt32 Connector := ∅
deriving DecidableEq, Inhabited

structure Registry where
  stations : Table String Station := ∅
  transactions : Table Int32 Transaction := ∅
  nextId : Int32 := 1
deriving DecidableEq, Inhabited

namespace Registry

def knows (r : Registry) (station : String) : Bool := r.stations.contains station

def chargePoint? (r : Registry) (station : String) : Option ChargePoint :=
  (r.stations.get? station).map (·.chargePoint)

def connector? (r : Registry) (station : String) (id : UInt32) : Option Connector :=
  (r.stations.get? station).bind (·.connectors.get? id)

/-- Registers a charge point. One that is known already is kept as it is. -/
def register (r : Registry) (cp : ChargePoint) : Registry :=
  if r.knows cp.id then r
  else { r with stations := r.stations.insert cp.id { chargePoint := cp } }

def setChargePoint (r : Registry) (cp : ChargePoint) : Registry :=
  { r with stations := r.stations.modify cp.id fun s => { s with chargePoint := cp } }

def setConnector (r : Registry) (station : String) (c : Connector) : Registry :=
  { r with
    stations := r.stations.modify station fun s =>
      { s with connectors := s.connectors.insert c.id c } }

def putTransaction (r : Registry) (t : Transaction) : Registry :=
  { r with transactions := r.transactions.insert t.id t }

def removeTransaction (r : Registry) (id : Int32) : Registry :=
  { r with transactions := r.transactions.erase id }

/-- The next transaction id, and the registry that counts on. The counter wraps. -/
def allocate (r : Registry) : Int32 × Registry := (r.nextId, { r with nextId := r.nextId + 1 })

structure Link where
  chargePoint : String
  connector : UInt32
  transaction : Int32
deriving DecidableEq, Inhabited, Repr

def links (station : String) (s : Station) : List Link :=
  (s.connectors.values.filter (·.isActive)).map fun c => ⟨station, c.id, c.transaction⟩

/-- The connectors that have a transaction, by charge point and connector. -/
def activeConnectors (r : Registry) : List Link := r.stations.entries.flatMap fun e => links e.1 e.2

end Registry

end CentralSystem
