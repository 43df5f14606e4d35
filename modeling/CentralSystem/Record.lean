import CentralSystem.Message.Vocabulary
import CentralSystem.Timestamp

namespace CentralSystem

/-- Stands in a connector for the transaction that it does not have. -/
def noTransaction : Int32 := -1

structure Connector where
  id : UInt32
  status : ConnectorStatus := .available
  errorCode : String := "NoError"
  info : Option String := none
  vendorId : Option String := none
  vendorErrorCode : Option String := none
  /-- The open transaction, or a negative number. -/
  transaction : Int32 := noTransaction
  /-- The granted limit in amperes, or 0. -/
  limit : Int32 := 0
deriving DecidableEq, Inhabited, Repr

namespace Connector

def isActive (c : Connector) : Bool := 0 ≤ c.transaction

/-- The connector with a status that it reported, and the transaction that was dropped: an available
connector has none, so that a stop that never came cannot block it. -/
def report (c : Connector) (status : ConnectorStatus) : Connector × Option Int32 :=
  if status = .available ∧ c.isActive then
    ({ c with status := status, transaction := noTransaction }, some c.transaction)
  else ({ c with status := status }, none)

end Connector

structure ChargePoint where
  id : String
  enabled : Bool := true
  vendor : String := ""
  model : String := ""
  serialNumber : Option String := none
  firmwareVersion : Option String := none
  /-- What was last reported for the charge point as a whole. -/
  status : String := "Unavailable"
  errorCode : String := "NoError"
  location : Option String := none
  /-- Whether it takes charging profiles. -/
  smartCharging : Bool := false
  firmwareStatus : Option String := none
  diagnosticsStatus : Option String := none
  lastSeen : Option Timestamp := none
deriving DecidableEq, Inhabited

namespace ChargePoint

def touch (cp : ChargePoint) (now : Timestamp) : ChargePoint := { cp with lastSeen := some now }

/-- The charge point with the identity that it gave. A serial number or version that it left out is
kept. -/
def identify (cp : ChargePoint) (vendor model : String) (serialNumber firmwareVersion : Option String) :
    ChargePoint :=
  { cp with
    vendor := vendor
    model := model
    serialNumber := serialNumber <|> cp.serialNumber
    firmwareVersion := firmwareVersion <|> cp.firmwareVersion }

end ChargePoint

structure Location where
  id : String
  name : String
  /-- What a charge point may draw as a whole, set at boot; 0 for no limit. -/
  defaultLimit : Int32
  /-- What all charge points may draw together; 0 for no limit. -/
  powerLimit : Int32
  chargePoints : List String
deriving DecidableEq, Inhabited, Repr

structure Transaction where
  id : Int32
  chargePoint : String
  connector : UInt32
  idTag : String
  username : String := ""
  userNote : String := ""
  /-- Meter readings are in watt hours. -/
  meterStart : Int32
  meterStop : Int32 := meterStart
  timeStart : Timestamp
  timeStop : Option Timestamp := none
  reservation : Option Int32 := none
  isFinished : Bool := false
  reason : Option String := none
deriving DecidableEq, Inhabited

namespace Transaction

def finish (t : Transaction) (meterStop : Int32) (timeStop : Timestamp) (reason : Option String) :
    Transaction :=
  if t.isFinished then t
  else { t with meterStop, timeStop := some timeStop, reason, isFinished := true }

def energy? (t : Transaction) : Option Int32 :=
  if t.isFinished then some (.ofIntClamp (t.meterStop.toInt - t.meterStart.toInt)) else none

end Transaction

/-- A value that a station measured, in the spelling of the wire. -/
structure MeterSample where
  chargePoint : String
  connector : UInt32
  transaction : Option Int32
  timestamp : Timestamp
  measurand : String
  value : String
  unit : Option String
  context : Option String
deriving DecidableEq, Inhabited

structure UserTag where
  idTag : String
  username : String
  note : String := ""
  enabled : Bool := true
deriving DecidableEq, Inhabited, Repr

def UserTag.onFirstUse (idTag : String) : UserTag :=
  { idTag, username := idTag, note := "registered on first use" }

end CentralSystem
