namespace CentralSystem

inductive Action where
  | bootNotification
  | authorize
  | heartbeat
  | startTransaction
  | stopTransaction
  | meterValues
  | statusNotification
  | dataTransfer
  | diagnosticsStatusNotification
  | firmwareStatusNotification
  | setChargingProfile
  | clearChargingProfile
  | triggerMessage
  | remoteStartTransaction
  | remoteStopTransaction
deriving DecidableEq, Inhabited, Repr

namespace Action

def name : Action → String
  | bootNotification => "BootNotification"
  | authorize => "Authorize"
  | heartbeat => "Heartbeat"
  | startTransaction => "StartTransaction"
  | stopTransaction => "StopTransaction"
  | meterValues => "MeterValues"
  | statusNotification => "StatusNotification"
  | dataTransfer => "DataTransfer"
  | diagnosticsStatusNotification => "DiagnosticsStatusNotification"
  | firmwareStatusNotification => "FirmwareStatusNotification"
  | setChargingProfile => "SetChargingProfile"
  | clearChargingProfile => "ClearChargingProfile"
  | triggerMessage => "TriggerMessage"
  | remoteStartTransaction => "RemoteStartTransaction"
  | remoteStopTransaction => "RemoteStopTransaction"

def inbound : List Action :=
  [bootNotification, authorize, heartbeat, startTransaction, stopTransaction, meterValues,
    statusNotification, dataTransfer, diagnosticsStatusNotification, firmwareStatusNotification]

def outbound : List Action :=
  [setChargingProfile, clearChargingProfile, triggerMessage, remoteStartTransaction,
    remoteStopTransaction]

def ofName? (actions : List Action) (s : String) : Option Action := actions.find? (·.name == s)

theorem ofName?_inbound_name {a : Action} (h : a ∈ inbound) : ofName? inbound a.name = some a := by
  revert a; decide

end Action

end CentralSystem
