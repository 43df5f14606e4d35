import CentralSystem.Frame
import CentralSystem.Message.Action
import CentralSystem.Message.Vocabulary

namespace CentralSystem

structure SampledValue where
  value : String
  context : Option ReadingContext
  format : Option ValueFormat
  measurand : Option Measurand
  phase : Option Phase
  location : Option MeterLocation
  unit : Option UnitOfMeasure
deriving DecidableEq, Inhabited

def SampledValue.shape : Shape SampledValue :=
  .record "SampledValue"
    (.required "value" .text <| .optional "context" (.choice ReadingContext.enumeration) <|
      .optional "format" (.choice ValueFormat.enumeration) <|
      .optional "measurand" (.choice Measurand.enumeration) <|
      .optional "phase" (.choice Phase.enumeration) <|
      .optional "location" (.choice MeterLocation.enumeration) <|
      .optional "unit" (.choice UnitOfMeasure.enumeration) .nil)
    (fun (v, c, f, m, p, l, u, ()) => ⟨v, c, f, m, p, l, u⟩)
    (fun s => (s.value, s.context, s.format, s.measurand, s.phase, s.location, s.unit, ()))

structure MeterValue where
  timestamp : Timestamp
  sampledValue : List SampledValue
deriving DecidableEq, Inhabited

def MeterValue.shape : Shape MeterValue :=
  .record "MeterValue"
    (.required "timestamp" .timestamp <| .required "sampledValue" (.list SampledValue.shape) .nil)
    (fun (t, s, ()) => ⟨t, s⟩) (fun m => (m.timestamp, m.sampledValue, ()))

namespace Request

structure BootNotification where
  chargeBoxSerialNumber : Option String
  chargePointModel : String
  chargePointSerialNumber : Option String
  chargePointVendor : String
  firmwareVersion : Option String
  iccid : Option String
  imsi : Option String
  meterSerialNumber : Option String
  meterType : Option String
deriving DecidableEq, Inhabited

def BootNotification.schema : Schema BootNotification where
  shape := .record "BootNotificationRequest"
    (.optional "chargeBoxSerialNumber" .text <| .required "chargePointModel" .text <|
      .optional "chargePointSerialNumber" .text <| .required "chargePointVendor" .text <|
      .optional "firmwareVersion" .text <| .optional "iccid" .text <| .optional "imsi" .text <|
      .optional "meterSerialNumber" .text <| .optional "meterType" .text .nil)
    (fun (b, m, s, v, f, c, i, n, t, ()) => ⟨b, m, s, v, f, c, i, n, t⟩)
    (fun r => (r.chargeBoxSerialNumber, r.chargePointModel, r.chargePointSerialNumber,
      r.chargePointVendor, r.firmwareVersion, r.iccid, r.imsi, r.meterSerialNumber, r.meterType, ()))
  bounds := [
    .length "chargePointVendor" 20 (·.chargePointVendor),
    .length "chargePointModel" 20 (·.chargePointModel),
    .optionalLength "chargePointSerialNumber" 25 (·.chargePointSerialNumber),
    .optionalLength "chargeBoxSerialNumber" 25 (·.chargeBoxSerialNumber),
    .optionalLength "firmwareVersion" 50 (·.firmwareVersion),
    .optionalLength "iccid" 20 (·.iccid),
    .optionalLength "imsi" 20 (·.imsi),
    .optionalLength "meterType" 25 (·.meterType),
    .optionalLength "meterSerialNumber" 25 (·.meterSerialNumber)]

structure Authorize where
  idTag : String
deriving DecidableEq, Inhabited

def Authorize.schema : Schema Authorize where
  shape := .record "AuthorizeRequest" (.required "idTag" .text .nil) (fun (t, ()) => ⟨t⟩)
    (fun r => (r.idTag, ()))
  bounds := [.length "idTag" 20 (·.idTag)]

structure Heartbeat where
deriving DecidableEq, Inhabited

def Heartbeat.schema : Schema Heartbeat where
  shape := .record "HeartbeatRequest" .nil (fun () => ⟨⟩) (fun _ => ())

structure StartTransaction where
  connectorId : UInt32
  idTag : String
  meterStart : Int32
  reservationId : Option Int32
  timestamp : Timestamp
deriving DecidableEq, Inhabited

def StartTransaction.schema : Schema StartTransaction where
  shape := .record "StartTransactionRequest"
    (.required "connectorId" .uint32 <| .required "idTag" .text <| .required "meterStart" .int32 <|
      .optional "reservationId" .int32 <| .required "timestamp" .timestamp .nil)
    (fun (c, i, m, r, t, ()) => ⟨c, i, m, r, t⟩)
    (fun r => (r.connectorId, r.idTag, r.meterStart, r.reservationId, r.timestamp, ()))
  bounds := [.positive "connectorId" (·.connectorId), .length "idTag" 20 (·.idTag)]

structure StopTransaction where
  idTag : Option String
  meterStop : Int32
  timestamp : Timestamp
  transactionId : Int32
  reason : Option StopReason
  transactionData : Option (List MeterValue)
deriving DecidableEq, Inhabited

def StopTransaction.schema : Schema StopTransaction where
  shape := .record "StopTransactionRequest"
    (.optional "idTag" .text <| .required "meterStop" .int32 <| .required "timestamp" .timestamp <|
      .required "transactionId" .int32 <| .optional "reason" (.choice StopReason.enumeration) <|
      .optional "transactionData" (.list MeterValue.shape) .nil)
    (fun (i, m, t, x, r, d, ()) => ⟨i, m, t, x, r, d⟩)
    (fun r => (r.idTag, r.meterStop, r.timestamp, r.transactionId, r.reason, r.transactionData, ()))
  bounds := [.optionalLength "idTag" 20 (·.idTag)]

structure MeterValues where
  connectorId : UInt32
  transactionId : Option Int32
  meterValue : List MeterValue
deriving DecidableEq, Inhabited

def MeterValues.schema : Schema MeterValues where
  shape := .record "MeterValuesRequest"
    (.required "connectorId" .uint32 <| .optional "transactionId" .int32 <|
      .required "meterValue" (.list MeterValue.shape) .nil)
    (fun (c, t, m, ()) => ⟨c, t, m⟩) (fun r => (r.connectorId, r.transactionId, r.meterValue, ()))
  bounds := [.notEmpty "meterValue" (·.meterValue)]

structure StatusNotification where
  connectorId : UInt32
  errorCode : ErrorCode
  info : Option String
  status : ConnectorStatus
  timestamp : Option Timestamp
  vendorId : Option String
  vendorErrorCode : Option String
deriving DecidableEq, Inhabited

def StatusNotification.schema : Schema StatusNotification where
  shape := .record "StatusNotificationRequest"
    (.required "connectorId" .uint32 <| .required "errorCode" (.choice ErrorCode.enumeration) <|
      .optional "info" .text <| .required "status" (.choice ConnectorStatus.enumeration) <|
      .optional "timestamp" .timestamp <| .optional "vendorId" .text <|
      .optional "vendorErrorCode" .text .nil)
    (fun (c, e, i, s, t, v, x, ()) => ⟨c, e, i, s, t, v, x⟩)
    (fun r => (r.connectorId, r.errorCode, r.info, r.status, r.timestamp, r.vendorId,
      r.vendorErrorCode, ()))
  bounds := [
    .optionalLength "info" 50 (·.info),
    .optionalLength "vendorId" 255 (·.vendorId),
    .optionalLength "vendorErrorCode" 50 (·.vendorErrorCode)]

structure DataTransfer where
  vendorId : String
  messageId : Option String
  data : Option String
deriving DecidableEq, Inhabited

def DataTransfer.schema : Schema DataTransfer where
  shape := .record "DataTransferRequest"
    (.required "vendorId" .text <| .optional "messageId" .text <| .optional "data" .text .nil)
    (fun (v, m, d, ()) => ⟨v, m, d⟩) (fun r => (r.vendorId, r.messageId, r.data, ()))
  bounds := [.length "vendorId" 255 (·.vendorId), .optionalLength "messageId" 50 (·.messageId)]

structure DiagnosticsStatusNotification where
  status : DiagnosticsStatus
deriving DecidableEq, Inhabited

def DiagnosticsStatusNotification.schema : Schema DiagnosticsStatusNotification where
  shape := .record "DiagnosticsStatusNotificationRequest"
    (.required "status" (.choice DiagnosticsStatus.enumeration) .nil) (fun (s, ()) => ⟨s⟩)
    (fun r => (r.status, ()))

structure FirmwareStatusNotification where
  status : FirmwareStatus
deriving DecidableEq, Inhabited

def FirmwareStatusNotification.schema : Schema FirmwareStatusNotification where
  shape := .record "FirmwareStatusNotificationRequest"
    (.required "status" (.choice FirmwareStatus.enumeration) .nil) (fun (s, ()) => ⟨s⟩)
    (fun r => (r.status, ()))

end Request

inductive Request where
  | bootNotification (r : Request.BootNotification)
  | authorize (r : Request.Authorize)
  | heartbeat (r : Request.Heartbeat)
  | startTransaction (r : Request.StartTransaction)
  | stopTransaction (r : Request.StopTransaction)
  | meterValues (r : Request.MeterValues)
  | statusNotification (r : Request.StatusNotification)
  | dataTransfer (r : Request.DataTransfer)
  | diagnosticsStatusNotification (r : Request.DiagnosticsStatusNotification)
  | firmwareStatusNotification (r : Request.FirmwareStatusNotification)
deriving DecidableEq, Inhabited

namespace Request

def decodeAs? (action : Action) (payload : Json) : Option (Except Error Request) :=
  match action with
  | .bootNotification => some ((BootNotification.schema.decode payload).map bootNotification)
  | .authorize => some ((Authorize.schema.decode payload).map authorize)
  | .heartbeat => some ((Heartbeat.schema.decode payload).map heartbeat)
  | .startTransaction => some ((StartTransaction.schema.decode payload).map startTransaction)
  | .stopTransaction => some ((StopTransaction.schema.decode payload).map stopTransaction)
  | .meterValues => some ((MeterValues.schema.decode payload).map meterValues)
  | .statusNotification => some ((StatusNotification.schema.decode payload).map statusNotification)
  | .dataTransfer => some ((DataTransfer.schema.decode payload).map dataTransfer)
  | .diagnosticsStatusNotification =>
    some ((DiagnosticsStatusNotification.schema.decode payload).map diagnosticsStatusNotification)
  | .firmwareStatusNotification =>
    some ((FirmwareStatusNotification.schema.decode payload).map firmwareStatusNotification)
  | _ => none

def decode (action : String) (payload : Json) : Except Error Request :=
  match (Action.ofName? Action.inbound action).bind (decodeAs? · payload) with
  | some result => result
  | none => .error (.unsupportedFeature action)

def action : Request → Action
  | bootNotification _ => .bootNotification
  | authorize _ => .authorize
  | heartbeat _ => .heartbeat
  | startTransaction _ => .startTransaction
  | stopTransaction _ => .stopTransaction
  | meterValues _ => .meterValues
  | statusNotification _ => .statusNotification
  | dataTransfer _ => .dataTransfer
  | diagnosticsStatusNotification _ => .diagnosticsStatusNotification
  | firmwareStatusNotification _ => .firmwareStatusNotification

def payload : Request → Json
  | bootNotification r => BootNotification.schema.encode r
  | authorize r => Authorize.schema.encode r
  | heartbeat r => Heartbeat.schema.encode r
  | startTransaction r => StartTransaction.schema.encode r
  | stopTransaction r => StopTransaction.schema.encode r
  | meterValues r => MeterValues.schema.encode r
  | statusNotification r => StatusNotification.schema.encode r
  | dataTransfer r => DataTransfer.schema.encode r
  | diagnosticsStatusNotification r => DiagnosticsStatusNotification.schema.encode r
  | firmwareStatusNotification r => FirmwareStatusNotification.schema.encode r

def frame (r : Request) (uniqueId : String) : Frame := .call uniqueId r.action.name r.payload

def encode (r : Request) (uniqueId : String) : String := (r.frame uniqueId).render

end Request

end CentralSystem
