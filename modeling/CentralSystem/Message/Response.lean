import CentralSystem.Frame
import CentralSystem.Message.Vocabulary

namespace CentralSystem

structure IdTagInfo where
  expiryDate : Option Timestamp
  parentIdTag : Option String
  status : AuthorizationStatus
deriving DecidableEq, Inhabited

def IdTagInfo.shape : Shape IdTagInfo :=
  .record "IdTagInfo"
    (.optional "expiryDate" .timestamp <| .optional "parentIdTag" .text <|
      .required "status" (.choice AuthorizationStatus.enumeration) .nil)
    (fun (e, p, s, ()) => ⟨e, p, s⟩) (fun i => (i.expiryDate, i.parentIdTag, i.status, ()))

def IdTagInfo.ofStatus (status : AuthorizationStatus) : IdTagInfo := ⟨none, none, status⟩

inductive Response where
  | bootNotification (currentTime : Timestamp) (interval : UInt32) (status : RegistrationStatus)
  | authorize (idTagInfo : IdTagInfo)
  | heartbeat (currentTime : Timestamp)
  | startTransaction (idTagInfo : IdTagInfo) (transactionId : Int32)
  | stopTransaction (idTagInfo : Option IdTagInfo)
  | meterValues
  | statusNotification
  | dataTransfer (data : Option String) (status : DataTransferStatus)
  | diagnosticsStatusNotification
  | firmwareStatusNotification
deriving DecidableEq, Inhabited

namespace Response

def members : Response → List (String × Json)
  | bootNotification time interval status =>
    [("currentTime", .string time.render), ("interval", .ofNat interval.toNat),
      ("status", .string status.name)]
  | authorize info => [("idTagInfo", IdTagInfo.shape.encode info)]
  | heartbeat time => [("currentTime", .string time.render)]
  | startTransaction info id =>
    [("idTagInfo", IdTagInfo.shape.encode info), ("transactionId", .ofInt id.toInt)]
  | stopTransaction info =>
    match info with
    | some info => [("idTagInfo", IdTagInfo.shape.encode info)]
    | none => []
  | dataTransfer data status =>
    match data with
    | some data => [("data", .string data), ("status", .string status.name)]
    | none => [("status", .string status.name)]
  | meterValues | statusNotification | diagnosticsStatusNotification
  | firmwareStatusNotification => []

def payload (r : Response) : Json := .ofMembers r.members

def frame (r : Response) (uniqueId : String) : Frame := .callResult uniqueId r.payload

end Response

end CentralSystem
