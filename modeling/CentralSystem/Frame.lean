import CentralSystem.Error
import CentralSystem.Json.Text

namespace CentralSystem

inductive Frame where
  | call (uniqueId action : String) (payload : Json)
  | callResult (uniqueId : String) (payload : Json)
  | callError (uniqueId code description : String) (details : Json)
deriving Inhabited, BEq, Repr

inductive FramePart where
  | uniqueId
  | action
  | payload
  | errorCode
  | errorDescription
deriving DecidableEq, Repr

inductive FrameError where
  | invalidJson
  | notAnArray
  | invalidMessageType
  | unknownMessageType (messageType : Nat)
  | arity (messageType : Nat) (expected : String) (got : Nat)
  | fieldType (part : FramePart)
deriving DecidableEq, Repr

namespace FramePart

def mismatch : FramePart → String
  | uniqueId => "uniqueId must be a string"
  | action => "action must be a string"
  | payload => "payload must be an object"
  | errorCode => "errorCode must be a string"
  | errorDescription => "errorDescription must be a string"

end FramePart

namespace FrameError

def message : FrameError → String
  | invalidJson => "invalid JSON: not one complete value"
  | notAnArray => "frame is not a JSON array"
  | invalidMessageType => "message type is missing or not a number"
  | unknownMessageType n => "unknown message type " ++ toString n
  | arity n expected got =>
    "message type " ++ toString n ++ " expects " ++ expected ++ " elements, got " ++ toString got
  | fieldType part => part.mismatch

def toError (e : FrameError) : Error := .format e.message

end FrameError

namespace Frame

def stringPart (part : FramePart) : Json → Except FrameError String
  | .string s => .ok s
  | _ => .error (.fieldType part)

def objectPart (part : FramePart) (j : Json) : Except FrameError Json :=
  if j.isObject then .ok j else .error (.fieldType part)

/-- The message type, which is spelled in plain digits and fits 64 bits. -/
def messageType? : Json → Option Nat
  | .number n => n.nat?.filter (· < 2 ^ 64)
  | _ => none

def ofItems (items : List Json) : Except FrameError Frame :=
  match items.head?.bind messageType? with
  | none => .error .invalidMessageType
  | some 2 =>
    match items with
    | [_, id, action, payload] => do
      return .call (← stringPart .uniqueId id) (← stringPart .action action)
        (← objectPart .payload payload)
    | _ => .error (.arity 2 "4" items.length)
  | some 3 =>
    match items with
    | [_, id, payload] => do
      return .callResult (← stringPart .uniqueId id) (← objectPart .payload payload)
    | _ => .error (.arity 3 "3" items.length)
  | some 4 =>
    match items with
    | _ :: id :: code :: description :: details =>
      if details.length ≤ 1 then do
        return .callError (← stringPart .uniqueId id) (← stringPart .errorCode code)
          (← stringPart .errorDescription description) (details.headD (.object []))
      else .error (.arity 4 "4 or 5" items.length)
    | _ => .error (.arity 4 "4 or 5" items.length)
  | some n => .error (.unknownMessageType n)

def parse (text : String) : Except FrameError Frame :=
  match Json.parse? text with
  | none => .error .invalidJson
  | some (.array items) => ofItems items
  | some _ => .error .notAnArray

/-- The unique id of a text that may be no frame. -/
def salvageUniqueId? (text : String) : Option String :=
  match Json.parse? text with
  | some (.array (_ :: .string id :: _)) => some id
  | _ => none

def items : Frame → List Json
  | call id action payload => [.ofNat 2, .string id, .string action, payload]
  | callResult id payload => [.ofNat 3, .string id, payload]
  | callError id code description details =>
    [.ofNat 4, .string id, .string code, .string description, details]

def render (f : Frame) : String := (Json.array f.items).render

def uniqueId : Frame → String
  | call id .. | callResult id _ | callError id .. => id

def refusal (uniqueId code description : String) : Frame :=
  .callError uniqueId code description (.object [])

end Frame

end CentralSystem
