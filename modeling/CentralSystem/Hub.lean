import CentralSystem.Ledger.Report
import CentralSystem.Plant

namespace CentralSystem

structure Hub where
  settings : Settings
  plant : Plant
  watch : WatchList := ∅
deriving Inhabited

namespace Hub

def firstWatch (settings : Settings) (r : Registry) : WatchList :=
  if settings.watching then
    WatchList.drain ∅ (r.activeConnectors.map fun k =>
      .register k.transaction ⟨k.chargePoint, k.connector⟩)
  else ∅

def start (settings : Settings) (storage : Storage) (seed : Nat) : Except Error Hub := do
  let ledger ← Ledger.load storage
  return {
    settings
    plant := { ledger, switchboard := { seed } }
    watch := firstWatch settings ledger.registry }

def note (h : Hub) (n : Notice) : Hub := { h with plant := h.plant.note n }

def setSwitchboard (h : Hub) (switchboard : Switchboard) : Hub :=
  { h with plant := { h.plant with switchboard } }

def handle (h : Hub) (now : Timestamp) (station : String) (r : Request) : Response × Hub :=
  let (response, ledger) := h.plant.ledger.answer h.settings now station r
  (response, { h with plant := { h.plant with ledger } })

def followUp (h : Hub) (now : Timestamp) (station : String) (r : Request) : Hub :=
  match h.settings.tiers with
  | none => h
  | some tiers =>
    let result : Except Error Plant := match r with
      | .bootNotification _ =>
        if h.plant.ledger.registry.knows station then h.plant.applyDefault now station
        else .ok h.plant
      | .startTransaction _ | .stopTransaction _ | .statusNotification _ =>
        (h.plant.checkPowerLimit tiers now station).map (·.2)
      | _ => .ok h.plant
    match result with
    | .ok plant => { h with plant }
    | .error e => h.note (.followUpFailed station e)

def refuse (h : Hub) (connection : Nat) (station : String) (e : Error) : Hub :=
  match h.plant.switchboard.reply connection (Frame.refusal · e.code e.message) with
  | .ok s => h.setSwitchboard s
  | .error cause => h.note (.refusalNotSent station cause)

def receiveCall (h : Hub) (now : Timestamp) (connection : Nat) (station action : String)
    (payload : Json) : Hub :=
  match Request.decode action payload with
  | .error e =>
    let n := match e with
      | .unsupportedFeature action => Notice.unsupportedAction station action
      | e => .invalidRequest station action e
    (h.note n).refuse connection station e
  | .ok r =>
    let (response, h) := h.handle now station r
    match h.plant.switchboard.reply connection response.frame with
    | .ok s => (h.setSwitchboard s).followUp now station r
    | .error cause => h.note (.responseNotSent station r.action cause)

def receiveFrame (h : Hub) (now : Timestamp) (connection : Nat) (station : String) : Frame → Hub
  | .call uniqueId action payload =>
    (h.setSwitchboard (h.plant.switchboard.noteCall connection uniqueId)).receiveCall now connection
      station action payload
  | .callResult uniqueId _ =>
    match h.plant.switchboard.takePending station uniqueId with
    | (some action, s) => (h.setSwitchboard s).note (.confirmed station uniqueId action)
    | (none, s) => h.setSwitchboard s
  | .callError uniqueId code description _ =>
    let (action, s) := h.plant.switchboard.takePending station uniqueId
    (h.setSwitchboard s).note (.rejected station uniqueId action code description)

/-- Takes a text that came in over a connection. What is no frame is dropped without an answer, since
its unique id cannot be trusted. -/
def receive (h : Hub) (now : Timestamp) (connection : Nat) (text : String) : Hub :=
  match h.plant.switchboard.connection? connection with
  | none => h
  | some c =>
    match Frame.parse text with
    | .error e => h.note (.malformedFrame c.station (Frame.salvageUniqueId? text) e)
    | .ok f => h.receiveFrame now connection c.station f

def drain (h : Hub) : Hub :=
  { h with
    watch := h.watch.drain h.plant.ledger.queue
    plant := { h.plant with ledger := { h.plant.ledger with queue := [] } } }

def trigger (p : Plant) (transaction : Int32) (w : Watched) : Plant :=
  p.command w.chargePoint
    (.triggerMessage { requestedMessage := .meterValues, connectorId := some w.connector })
    (.triggerNotSent w.chargePoint w.connector transaction)

def tick (h : Hub) : Hub :=
  { h with plant := h.watch.entries.foldl (fun p e => trigger p e.1 e.2) h.plant }

def remoteStart (h : Hub) (station idTag : String) (connector : Option UInt32) :
    Except Error (String × Hub) :=
  if connector = some 0 then .error (.validation "connectorId" "must be greater than 0")
  else do
    let (id, s) ← h.plant.switchboard.request station
      (.remoteStartTransaction { connectorId := connector, idTag, chargingProfile := none })
    return (id, h.setSwitchboard s)

def remoteStop (h : Hub) (station : String) (transaction : Int32) : Except Error (String × Hub) := do
  let (id, s) ← h.plant.switchboard.request station
    (.remoteStopTransaction { transactionId := transaction })
  return (id, h.setSwitchboard s)

end Hub

end CentralSystem
