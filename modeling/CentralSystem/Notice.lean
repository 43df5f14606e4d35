import CentralSystem.Error
import CentralSystem.Frame
import CentralSystem.Message.Action
import CentralSystem.Text

namespace CentralSystem

inductive Notice.Level where
  | info
  | warn
  | error
deriving DecidableEq, Repr

inductive Notice where
  | notPersisted (operation station : String) (cause : Error)
  | tagLookupFailed (idTag : String) (cause : Error)
  | tagNotPersisted (idTag : String) (cause : Error)
  | transactionLookupFailed (transaction : Int32) (cause : Error)
  | danglingLink (connector : UInt32) (transaction : Int32)
  | unknownStation (action : Action) (station : String)
  | disabledStation (station : String)
  | busyConnector (station : String) (connector : UInt32) (openTransaction : Int32)
  | displaced (station : String) (connector : UInt32) (transaction : Int32)
  | linkReleased (station : String) (connector : UInt32) (transaction : Int32)
  | unknownTransaction (action : Action) (station : String) (transaction : Int32)
  | alreadyClosed (station : String) (transaction : Int32)
  | foreignStop (station owner : String) (transaction : Int32)
  | unknownLocation (station location : String)
  | limitNotPersisted (station : String) (connector : UInt32) (cause : Error)
  | profileNotBuilt (cause : Error)
  | profileNotSent (station : String) (connector : UInt32) (cause : Error)
  | defaultProfileNotSent (station : String) (cause : Error)
  | siteOverLimit (location : String) (aggregate powerLimit : Int32)
  | addOverflow
  | followUpFailed (station : String) (cause : Error)
  | triggerNotSent (station : String) (connector : UInt32) (transaction : Int32) (cause : Error)
  | malformedFrame (station : String) (uniqueId : Option String) (cause : FrameError)
  | unsupportedAction (station action : String)
  | invalidRequest (station action : String) (cause : Error)
  | refusalNotSent (station : String) (cause : Error)
  | responseNotSent (station : String) (action : Action) (cause : Error)
  | confirmed (station uniqueId : String) (action : Action)
  | rejected (station uniqueId : String) (action : Option Action) (code description : String)
  | subscriberLagged (missed : Nat)
  | shutdownTimedOut (task : String) (seconds : Nat)
deriving DecidableEq, Repr

namespace Notice

def level : Notice → Level
  | notPersisted .. | tagLookupFailed .. | tagNotPersisted .. | transactionLookupFailed ..
  | busyConnector .. | addOverflow => .error
  | unsupportedAction .. | confirmed .. => .info
  | _ => .warn

def message : Notice → String
  | notPersisted operation station cause =>
    operation ++ " failed for charge point " ++ station ++ ": " ++ cause.message
  | tagLookupFailed idTag cause => "get_user_tag failed for " ++ idTag ++ ": " ++ cause.message
  | tagNotPersisted idTag cause => "add_user_tag failed for " ++ idTag ++ ": " ++ cause.message
  | transactionLookupFailed t cause =>
    "get_transaction failed for " ++ toString t ++ ": " ++ cause.message
  | danglingLink .. => "Connector references a missing or closed transaction"
  | unknownStation action _ => action.name ++ " from unknown charge point"
  | disabledStation _ => "Disabled charge point booted"
  | busyConnector station connector t =>
    "StartTransaction on busy connector " ++ toString connector ++ " of " ++ station ++
      " (open transaction " ++ toString t ++ ")"
  | displaced .. => "Displaced transaction released"
  | linkReleased .. => "Connector reported Available with an open transaction, link released"
  | unknownTransaction action .. => action.name ++ " for unknown transaction"
  | alreadyClosed station t =>
    "StopTransaction for already closed transaction " ++ toString t ++ " from " ++ station
  | foreignStop .. => "Transaction stopped by a different charge point"
  | unknownLocation .. => "Charge point references an unknown location"
  | limitNotPersisted .. => "Power limit not persisted"
  | profileNotBuilt _ => "Charging profile could not be built"
  | profileNotSent .. => "Charging profile not sent"
  | defaultProfileNotSent .. => "Default profile not sent"
  | siteOverLimit .. => "Granted current exceeds the site limit"
  | addOverflow => "attempt to add with overflow"
  | followUpFailed .. => "Load balancer follow-up failed"
  | triggerNotSent .. => "MeterValues trigger not sent"
  | malformedFrame station uniqueId cause =>
    "Dropping malformed frame from " ++ station ++ " (uniqueId " ++ Text.quotedOption uniqueId ++
      "): " ++ cause.message
  | unsupportedAction .. => "Unsupported action received"
  | invalidRequest station action cause =>
    "Invalid " ++ action ++ " from " ++ station ++ ": " ++ cause.message
  | refusalNotSent .. => "CallError not sent"
  | responseNotSent .. => "Response not sent"
  | confirmed .. => "Request confirmed"
  | rejected .. => "Request rejected by charge point"
  | subscriberLagged _ => "Subscriber lagged"
  | shutdownTimedOut .. => "Shutdown timed out"

def actionOption : Option Action → String
  | none => "None"
  | some action => "Some(" ++ action.name ++ ")"

def fields : Notice → List (String × String)
  | notPersisted .. | tagLookupFailed .. | tagNotPersisted .. | transactionLookupFailed ..
  | busyConnector .. | alreadyClosed .. | malformedFrame .. | invalidRequest .. | addOverflow => []
  | danglingLink c t => [("connector_id", toString c), ("transaction_id", toString t)]
  | unknownStation _ station | disabledStation station => [("charge_point_id", station)]
  | displaced station c t | linkReleased station c t =>
    [("charge_point_id", station), ("connector_id", toString c), ("transaction_id", toString t)]
  | unknownTransaction _ station t =>
    [("charge_point_id", station), ("transaction_id", toString t)]
  | foreignStop station owner t =>
    [("charge_point_id", station), ("owner", owner), ("transaction_id", toString t)]
  | unknownLocation station location =>
    [("charge_point_id", station), ("location_id", location)]
  | limitNotPersisted station c cause | profileNotSent station c cause =>
    [("charge_point_id", station), ("connector_id", toString c), ("error", cause.message)]
  | profileNotBuilt cause => [("error", cause.message)]
  | defaultProfileNotSent station cause | followUpFailed station cause
  | refusalNotSent station cause =>
    [("charge_point_id", station), ("error", cause.message)]
  | siteOverLimit location aggregate limit =>
    [("location_id", location), ("aggregate", toString aggregate),
      ("power_limit", toString limit)]
  | triggerNotSent station c t cause =>
    [("charge_point_id", station), ("connector_id", toString c), ("transaction_id", toString t),
      ("error", cause.message)]
  | unsupportedAction station action => [("feature", action), ("charge_point_id", station)]
  | responseNotSent station action cause =>
    [("charge_point_id", station), ("action", action.name), ("error", cause.message)]
  | confirmed station uniqueId action =>
    [("charge_point_id", station), ("unique_id", uniqueId), ("action", action.name)]
  | rejected station uniqueId action code description =>
    [("charge_point_id", station), ("unique_id", uniqueId), ("action", actionOption action),
      ("error_code", code), ("error_description", description)]
  | subscriberLagged missed => [("missed", toString missed)]
  | shutdownTimedOut task seconds => [("task", task), ("timeout_secs", toString seconds)]

end Notice

end CentralSystem
