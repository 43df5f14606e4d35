import CentralSystem.Record
import CentralSystem.Table

namespace CentralSystem

structure Database where
  chargePoints : Table String ChargePoint := ∅
  connectors : Table String (Table UInt32 Connector) := ∅
  transactions : Table Int32 Transaction := ∅
  samples : Table String (List MeterSample) := ∅
  tags : Table String UserTag := ∅
  locations : Table String Location := ∅
deriving DecidableEq, Inhabited

namespace Database

def connectorsOf (db : Database) (station : String) : Table UInt32 Connector :=
  (db.connectors.get? station).getD ∅

def connector? (db : Database) (station : String) (id : UInt32) : Option Connector :=
  (db.connectorsOf station).get? id

def samplesOf (db : Database) (station : String) : List MeterSample :=
  (db.samples.get? station).getD []

def putChargePoint (db : Database) (cp : ChargePoint) : Database :=
  { db with chargePoints := db.chargePoints.insert cp.id cp }

def putConnector (db : Database) (station : String) (c : Connector) : Database :=
  { db with connectors := db.connectors.insert station ((db.connectorsOf station).insert c.id c) }

def putTransaction (db : Database) (t : Transaction) : Database :=
  { db with transactions := db.transactions.insert t.id t }

def putTag (db : Database) (tag : UserTag) : Database :=
  { db with tags := db.tags.insert tag.idTag tag }

def putLocation (db : Database) (location : Location) : Database :=
  { db with locations := db.locations.insert location.id location }

def addSample (db : Database) (s : MeterSample) : Database :=
  { db with samples := db.samples.insert s.chargePoint (db.samplesOf s.chargePoint ++ [s]) }

def lastTransaction? (db : Database) : Option Transaction :=
  db.transactions.entries.getLast?.map (·.2)

end Database

inductive StorageOperation where
  | getChargePoints
  | getChargePoint
  | addChargePoint
  | updateChargePoint
  | getConnectors
  | addConnector
  | updateConnector
  | updateConnectorLimit
  | getTransaction
  | getLastTransaction
  | addTransaction
  | updateTransaction
  | getUserTag
  | addUserTag
  | addMeterSamples
  | getLocation
deriving DecidableEq, Repr

def StorageOperation.name : StorageOperation → String
  | getChargePoints => "get_charge_points"
  | getChargePoint => "get_charge_point"
  | addChargePoint => "add_charge_point"
  | updateChargePoint => "update_charge_point"
  | getConnectors => "get_connectors"
  | addConnector => "add_connector"
  | updateConnector => "update_connector"
  | updateConnectorLimit => "update_connector_current_power"
  | getTransaction => "get_transaction"
  | getLastTransaction => "get_last_transaction"
  | addTransaction => "add_transaction"
  | updateTransaction => "update_transaction"
  | getUserTag => "get_user_tag"
  | addUserTag => "add_user_tag"
  | addMeterSamples => "add_meter_samples"
  | getLocation => "get_location"

structure Storage where
  database : Database
  /-- The names of the operations that fail. -/
  broken : List String := []
deriving DecidableEq, Inhabited

namespace Storage

def attempt (s : Storage) (operation : StorageOperation) (result : Except Error α) :
    Except Error α :=
  if operation.name ∈ s.broken then .error (.database ("injected fault in " ++ operation.name))
  else result

def write (s : Storage) (operation : StorageOperation) (result : Except Error Database) :
    Except Error Storage :=
  (s.attempt operation result).map fun db => { s with database := db }

def chargePoints (s : Storage) : Except Error (List ChargePoint) :=
  s.attempt .getChargePoints (.ok s.database.chargePoints.values)

def chargePoint? (s : Storage) (id : String) : Except Error (Option ChargePoint) :=
  s.attempt .getChargePoint (.ok (s.database.chargePoints.get? id))

def connectors (s : Storage) (station : String) : Except Error (List Connector) :=
  s.attempt .getConnectors (.ok (s.database.connectorsOf station).values)

def transaction? (s : Storage) (id : Int32) : Except Error (Option Transaction) :=
  s.attempt .getTransaction (.ok (s.database.transactions.get? id))

def lastTransaction? (s : Storage) : Except Error (Option Transaction) :=
  s.attempt .getLastTransaction (.ok s.database.lastTransaction?)

def tag? (s : Storage) (idTag : String) : Except Error (Option UserTag) :=
  s.attempt .getUserTag (.ok (s.database.tags.get? idTag))

def location? (s : Storage) (id : String) : Except Error (Option Location) :=
  s.attempt .getLocation (.ok (s.database.locations.get? id))

def addChargePoint (s : Storage) (cp : ChargePoint) : Except Error Storage :=
  s.write .addChargePoint <|
    if s.database.chargePoints.contains cp.id then
      .error (.database ("charge point " ++ cp.id ++ " already exists"))
    else .ok (s.database.putChargePoint cp)

def updateChargePoint (s : Storage) (cp : ChargePoint) : Except Error Storage :=
  s.write .updateChargePoint <|
    if s.database.chargePoints.contains cp.id then .ok (s.database.putChargePoint cp)
    else .error (.notFound "charge point" cp.id)

def addConnector (s : Storage) (station : String) (c : Connector) : Except Error Storage :=
  s.write .addConnector (.ok (s.database.putConnector station c))

def updateConnector (s : Storage) (station : String) (c : Connector) : Except Error Storage :=
  s.write .updateConnector (.ok (s.database.putConnector station c))

/-- Sets the limit of a connector, which is put on record if it is not yet. -/
def updateConnectorLimit (s : Storage) (station : String) (id : UInt32) (limit : Int32) :
    Except Error Storage :=
  s.write .updateConnectorLimit <|
    .ok (s.database.putConnector station
      { (s.database.connector? station id).getD { id := id } with limit := limit })

def addTransaction (s : Storage) (t : Transaction) : Except Error Storage :=
  s.write .addTransaction <|
    if s.database.transactions.contains t.id then
      .error (.database ("transaction " ++ toString t.id ++ " already exists"))
    else .ok (s.database.putTransaction t)

def updateTransaction (s : Storage) (t : Transaction) : Except Error Storage :=
  s.write .updateTransaction <|
    if s.database.transactions.contains t.id then .ok (s.database.putTransaction t)
    else .error (.notFound "transaction" (toString t.id))

def addTag (s : Storage) (tag : UserTag) : Except Error Storage :=
  s.write .addUserTag (.ok (s.database.putTag tag))

def addSamples (s : Storage) (samples : List MeterSample) : Except Error Storage :=
  s.write .addMeterSamples (.ok (samples.foldl Database.addSample s.database))

end Storage

end CentralSystem
