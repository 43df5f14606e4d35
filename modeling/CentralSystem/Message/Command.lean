import CentralSystem.Frame
import CentralSystem.Message.Action
import CentralSystem.Message.Vocabulary

namespace CentralSystem

structure SchedulePeriod where
  startPeriod : Int32
  limit : Decimal
  numberPhases : Option Int32
deriving DecidableEq, Inhabited

def SchedulePeriod.shape : Shape SchedulePeriod :=
  .record "ChargingSchedulePeriod"
    (.required "startPeriod" .int32 <| .required "limit" .decimal <|
      .optional "numberPhases" .int32 .nil)
    (fun (s, l, n, ()) => ⟨s, l, n⟩) (fun p => (p.startPeriod, p.limit, p.numberPhases, ()))

structure ChargingSchedule where
  duration : Option Int32
  startSchedule : Option Timestamp
  chargingRateUnit : RateUnit
  chargingSchedulePeriod : List SchedulePeriod
  minChargingRate : Option Decimal
deriving DecidableEq, Inhabited

def ChargingSchedule.shape : Shape ChargingSchedule :=
  .record "ChargingSchedule"
    (.optional "duration" .int32 <| .optional "startSchedule" .timestamp <|
      .required "chargingRateUnit" (.choice RateUnit.enumeration) <|
      .required "chargingSchedulePeriod" (.list SchedulePeriod.shape) <|
      .trailing "minChargingRate" .decimal)
    (fun (d, s, u, p, m, ()) => ⟨d, s, u, p, m⟩)
    (fun c => (c.duration, c.startSchedule, c.chargingRateUnit, c.chargingSchedulePeriod,
      c.minChargingRate, ()))

structure ChargingProfile where
  chargingProfileId : Int32
  transactionId : Option Int32
  stackLevel : UInt32
  chargingProfilePurpose : ProfilePurpose
  chargingProfileKind : ProfileKind
  recurrencyKind : Option Recurrency
  validFrom : Option Timestamp
  validTo : Option Timestamp
  chargingSchedule : ChargingSchedule
deriving DecidableEq, Inhabited

def ChargingProfile.shape : Shape ChargingProfile :=
  .record "ChargingProfile"
    (.required "chargingProfileId" .int32 <| .optional "transactionId" .int32 <|
      .required "stackLevel" .uint32 <|
      .required "chargingProfilePurpose" (.choice ProfilePurpose.enumeration) <|
      .required "chargingProfileKind" (.choice ProfileKind.enumeration) <|
      .optional "recurrencyKind" (.choice Recurrency.enumeration) <|
      .optional "validFrom" .timestamp <| .optional "validTo" .timestamp <|
      .required "chargingSchedule" ChargingSchedule.shape .nil)
    (fun (i, t, l, p, k, r, f, u, s, ()) => ⟨i, t, l, p, k, r, f, u, s⟩)
    (fun c => (c.chargingProfileId, c.transactionId, c.stackLevel, c.chargingProfilePurpose,
      c.chargingProfileKind, c.recurrencyKind, c.validFrom, c.validTo, c.chargingSchedule, ()))

namespace Command

structure SetChargingProfile where
  connectorId : Int32
  csChargingProfiles : ChargingProfile
deriving DecidableEq, Inhabited

def SetChargingProfile.schema : Schema SetChargingProfile where
  shape := .record "SetChargingProfileRequest"
    (.required "connectorId" .int32 <| .required "csChargingProfiles" ChargingProfile.shape .nil)
    (fun (c, p, ()) => ⟨c, p⟩) (fun r => (r.connectorId, r.csChargingProfiles, ()))

structure ClearChargingProfile where
  id : Option Int32
  connectorId : Option Int32
  chargingProfilePurpose : Option ProfilePurpose
  stackLevel : Option Int32
deriving DecidableEq, Inhabited

def ClearChargingProfile.schema : Schema ClearChargingProfile where
  shape := .record "ClearChargingProfileRequest"
    (.optional "id" .int32 <| .optional "connectorId" .int32 <|
      .optional "chargingProfilePurpose" (.choice ProfilePurpose.enumeration) <|
      .optional "stackLevel" .int32 .nil)
    (fun (i, c, p, s, ()) => ⟨i, c, p, s⟩)
    (fun r => (r.id, r.connectorId, r.chargingProfilePurpose, r.stackLevel, ()))

structure TriggerMessage where
  requestedMessage : MessageTrigger
  connectorId : Option UInt32
deriving DecidableEq, Inhabited

def TriggerMessage.schema : Schema TriggerMessage where
  shape := .record "TriggerMessageRequest"
    (.required "requestedMessage" (.choice MessageTrigger.enumeration) <|
      .optional "connectorId" .uint32 .nil)
    (fun (m, c, ()) => ⟨m, c⟩) (fun r => (r.requestedMessage, r.connectorId, ()))

structure RemoteStartTransaction where
  connectorId : Option UInt32
  idTag : String
  chargingProfile : Option ChargingProfile
deriving DecidableEq, Inhabited

def RemoteStartTransaction.schema : Schema RemoteStartTransaction where
  shape := .record "RemoteStartTransactionRequest"
    (.optional "connectorId" .uint32 <| .required "idTag" .text <|
      .optional "chargingProfile" ChargingProfile.shape .nil)
    (fun (c, i, p, ()) => ⟨c, i, p⟩) (fun r => (r.connectorId, r.idTag, r.chargingProfile, ()))
  bounds := [.positive "connectorId" (·.connectorId.getD 1), .length "idTag" 20 (·.idTag)]

structure RemoteStopTransaction where
  transactionId : Int32
deriving DecidableEq, Inhabited

def RemoteStopTransaction.schema : Schema RemoteStopTransaction where
  shape := .record "RemoteStopTransactionRequest" (.required "transactionId" .int32 .nil)
    (fun (t, ()) => ⟨t⟩) (fun r => (r.transactionId, ()))

end Command

inductive Command where
  | setChargingProfile (r : Command.SetChargingProfile)
  | clearChargingProfile (r : Command.ClearChargingProfile)
  | triggerMessage (r : Command.TriggerMessage)
  | remoteStartTransaction (r : Command.RemoteStartTransaction)
  | remoteStopTransaction (r : Command.RemoteStopTransaction)
deriving DecidableEq, Inhabited

namespace Command

def decodeAs? (action : Action) (payload : Json) : Option (Except Error Command) :=
  match action with
  | .setChargingProfile => some ((SetChargingProfile.schema.decode payload).map setChargingProfile)
  | .clearChargingProfile =>
    some ((ClearChargingProfile.schema.decode payload).map clearChargingProfile)
  | .triggerMessage => some ((TriggerMessage.schema.decode payload).map triggerMessage)
  | .remoteStartTransaction =>
    some ((RemoteStartTransaction.schema.decode payload).map remoteStartTransaction)
  | .remoteStopTransaction =>
    some ((RemoteStopTransaction.schema.decode payload).map remoteStopTransaction)
  | _ => none

def decode (action : String) (payload : Json) : Except Error Command :=
  match (Action.ofName? Action.outbound action).bind (decodeAs? · payload) with
  | some result => result
  | none => .error (.unsupportedFeature action)

def action : Command → Action
  | setChargingProfile _ => .setChargingProfile
  | clearChargingProfile _ => .clearChargingProfile
  | triggerMessage _ => .triggerMessage
  | remoteStartTransaction _ => .remoteStartTransaction
  | remoteStopTransaction _ => .remoteStopTransaction

def payload : Command → Json
  | setChargingProfile r => SetChargingProfile.schema.encode r
  | clearChargingProfile r => ClearChargingProfile.schema.encode r
  | triggerMessage r => TriggerMessage.schema.encode r
  | remoteStartTransaction r => RemoteStartTransaction.schema.encode r
  | remoteStopTransaction r => RemoteStopTransaction.schema.encode r

def frame (c : Command) (uniqueId : String) : Frame := .call uniqueId c.action.name c.payload

def encode (c : Command) (uniqueId : String) : String := (c.frame uniqueId).render

end Command

end CentralSystem
