import CentralSystem.Record
import CentralSystem.Json.Value

namespace CentralSystem

inductive Event where
  | connectorStatusChanged (station : String) (connector : UInt32) (status errorCode : String)
      (info : Option String)
  | transactionStarted (station : String) (connector : UInt32) (transaction : Int32)
      (idTag username : String) (meterStart : Int32) (timestamp : Timestamp)
  | transactionStopped (station : String) (connector : UInt32) (transaction : Int32)
      (idTag : String) (meterStop energy : Int32) (reason : Option String) (timestamp : Timestamp)
  | authorizationResult (station idTag status : String)
deriving DecidableEq, Inhabited

namespace Event

def ofStart (t : Transaction) : Event :=
  .transactionStarted t.chargePoint t.connector t.id t.idTag t.username t.meterStart t.timeStart

/-- The stop of a transaction; one that has no time of stop is taken to stop now. -/
def ofStop (t : Transaction) (now : Timestamp) : Event :=
  .transactionStopped t.chargePoint t.connector t.id t.idTag t.meterStop (t.energy?.getD 0) t.reason
    (t.timeStop.getD now)

def station : Event → String
  | connectorStatusChanged s .. | transactionStarted s .. | transactionStopped s ..
  | authorizationResult s .. => s

def kind : Event → String × String
  | connectorStatusChanged .. => ("ConnectorStatusChanged", "connector_status_changed")
  | transactionStarted .. => ("TransactionStarted", "transaction_started")
  | transactionStopped .. => ("TransactionStopped", "transaction_stopped")
  | authorizationResult .. => ("AuthorizationResult", "authorization_result")

def data : Event → Json
  | connectorStatusChanged station connector status errorCode info =>
    .ofMembers [("charge_point_id", .string station), ("connector_id", .ofNat connector.toNat),
      ("status", .string status), ("error_code", .string errorCode),
      ("info", info.elim .null .string)]
  | transactionStarted station connector transaction idTag username meterStart timestamp =>
    .ofMembers [("charge_point_id", .string station), ("connector_id", .ofNat connector.toNat),
      ("transaction_id", .ofInt transaction.toInt), ("id_tag", .string idTag),
      ("username", .string username), ("meter_start", .ofInt meterStart.toInt),
      ("timestamp", .string timestamp.render)]
  | transactionStopped station connector transaction idTag meterStop energy reason timestamp =>
    .ofMembers [("charge_point_id", .string station), ("connector_id", .ofNat connector.toNat),
      ("transaction_id", .ofInt transaction.toInt), ("id_tag", .string idTag),
      ("meter_stop", .ofInt meterStop.toInt), ("energy_consumed_wh", .ofInt energy.toInt),
      ("reason", reason.elim .null .string), ("timestamp", .string timestamp.render)]
  | authorizationResult station idTag status =>
    .ofMembers [("charge_point_id", .string station), ("id_tag", .string idTag),
      ("status", .string status)]

def toJson (e : Event) : Json := .ofMembers [("type", .string e.kind.1), ("data", e.data)]

end Event

end CentralSystem
