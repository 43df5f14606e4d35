import CentralSystem.Ledger.Charging
import CentralSystem.Message.Request
import CentralSystem.Message.Response

namespace CentralSystem.Ledger

variable (settings : Settings) (now : Timestamp) (station : String)

def heartbeat (l : Ledger) : Response × Ledger :=
  (.heartbeat now,
    match l.registry.chargePoint? station with
    | some cp => { l with registry := l.registry.setChargePoint (cp.touch now) }
    | none => l)

def amend (l : Ledger) (action : Action) (change : ChargePoint → ChargePoint) : Ledger :=
  match l.registry.chargePoint? station with
  | some cp =>
    ({ l with registry := l.registry.setChargePoint (change cp) }).saveChargePoint (change cp)
  | none => l.note (.unknownStation action station)

def reportConnector (l : Ledger) (r : Request.StatusNotification) : Ledger :=
  let known := l.registry.connector? station r.connectorId
  let (c, dropped) := (known.getD { id := r.connectorId }).report r.status
  let c := { c with
    errorCode := r.errorCode.name
    info := r.info
    vendorId := r.vendorId
    vendorErrorCode := r.vendorErrorCode }
  let l := { l with registry := l.registry.setConnector station c }
  let l := match dropped with
    | some t => (l.note (.linkReleased station c.id t)).release settings t
    | none => l
  l.write
    (if known.isSome then l.storage.updateConnector station c else l.storage.addConnector station c)
    (.notPersisted "save_connector" station)

/-- Connector 0 stands for the charge point as a whole. -/
def reportStatus (l : Ledger) (r : Request.StatusNotification) : Response × Ledger :=
  let l :=
    if r.connectorId = 0 ∨ !l.registry.knows station then
      l.amend station .statusNotification fun cp =>
        { cp with status := r.status.name, errorCode := r.errorCode.name, lastSeen := some now }
    else l.reportConnector settings station r
  (.statusNotification, l.publish
    (.connectorStatusChanged station r.connectorId r.status.name r.errorCode.name r.info))

def reportDiagnostics (l : Ledger) (r : Request.DiagnosticsStatusNotification) :
    Response × Ledger :=
  (.diagnosticsStatusNotification, l.amend station .diagnosticsStatusNotification fun cp =>
    { cp with diagnosticsStatus := some r.status.name })

def reportFirmware (l : Ledger) (r : Request.FirmwareStatusNotification) : Response × Ledger :=
  (.firmwareStatusNotification, l.amend station .firmwareStatusNotification fun cp =>
    { cp with firmwareStatus := some r.status.name })

def samples (r : Request.MeterValues) : List MeterSample :=
  r.meterValue.flatMap fun m => m.sampledValue.map fun s =>
    { chargePoint := station
      connector := r.connectorId
      transaction := r.transactionId
      timestamp := m.timestamp
      measurand := (s.measurand.getD .energyActiveImportRegister).name
      value := s.value
      unit := s.unit.map UnitOfMeasure.name
      context := s.context.map ReadingContext.name }

def knowsTransaction (l : Ledger) (id : Int32) : Bool :=
  l.registry.transactions.contains id ||
    match l.storage.transaction? id with
    | .ok (some _) => true
    | _ => false

def meterValues (l : Ledger) (r : Request.MeterValues) : Response × Ledger :=
  let l := match r.transactionId with
    | some t =>
      if l.knowsTransaction t then l else l.note (.unknownTransaction .meterValues station t)
    | none => l
  let samples := samples station r
  (.meterValues,
    if samples.isEmpty then l
    else l.write (l.storage.addSamples samples) (.notPersisted "add_meter_samples" station))

/-- Data of vendors is acknowledged and not looked at. -/
def dataTransfer (l : Ledger) : Response × Ledger :=
  (.dataTransfer none (if l.registry.knows station then .accepted else .unknownVendorId), l)

def answer (l : Ledger) : Request → Response × Ledger
  | .bootNotification r => l.boot settings now station r
  | .authorize r => l.authorize settings station r
  | .heartbeat _ => l.heartbeat now station
  | .startTransaction r => l.start settings station r
  | .stopTransaction r => l.stop settings now station r
  | .meterValues r => l.meterValues station r
  | .statusNotification r => l.reportStatus settings now station r
  | .dataTransfer _ => l.dataTransfer station
  | .diagnosticsStatusNotification r => l.reportDiagnostics station r
  | .firmwareStatusNotification r => l.reportFirmware station r

end CentralSystem.Ledger
