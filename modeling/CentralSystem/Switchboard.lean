import CentralSystem.Message.Command
import CentralSystem.Message.Response
import CentralSystem.Table

namespace CentralSystem

structure Connection where
  id : Nat
  station : String
  /-- The unique id of the Call that came in last. -/
  lastCall : Option String := none
  /-- Whether what is queued can still reach the charge point. -/
  isOpen : Bool := true
  /-- The texts that wait to be written, oldest first. -/
  outbox : List String := []
deriving DecidableEq, Inhabited, Repr

structure CallKey where
  station : String
  uniqueId : String
deriving DecidableEq, Inhabited, Repr

namespace CallKey

instance : Ord CallKey where
  compare a b := (compare a.station b.station).then (compare a.uniqueId b.uniqueId)

theorem compare_eq :
    (compare : CallKey → CallKey → Ordering) =
      compareLex (compareOn station) (compareOn uniqueId) := rfl

instance : Std.TransOrd CallKey := by
  unfold Std.TransOrd
  rw [compare_eq]
  infer_instance

instance : Std.LawfulEqOrd CallKey where
  compare_self := Ordering.then_eq_eq.2 ⟨Std.ReflCmp.compare_self, Std.ReflCmp.compare_self⟩
  eq_of_compare {a b} h := by
    obtain ⟨h₁, h₂⟩ := Ordering.then_eq_eq.1 h
    cases a; cases b
    simp_all [Std.LawfulEqCmp.compare_eq_iff_eq]

end CallKey

structure Switchboard where
  /-- Tells the unique ids of this run from those of others, so that no charge point can guess one. -/
  seed : Nat := 0
  /-- Every connection so far, also the closed ones. -/
  connections : Table Nat Connection := ∅
  /-- The connection over which a charge point is reached. -/
  online : Table String Nat := ∅
  /-- The Calls that were sent and not answered. -/
  pending : Table CallKey Action := ∅
  nextConnection : Nat := 1
  /-- How many Calls have been sent. -/
  issued : Nat := 0
deriving DecidableEq, Inhabited

namespace Switchboard

def hexDigits : (width : Nat) → Nat → List Char
  | 0, _ => []
  | width + 1, n => hexDigits width (n / 16) ++ [Nat.digitChar (n % 16)]

def uniqueId (seed n : Nat) : String :=
  let hex := if n < 16 ^ 12 then hexDigits 12 n else Nat.toDigits 16 n
  String.ofList (hexDigits 8 seed) ++ "-0000-4000-8000-" ++ String.ofList hex

/-- Opens a connection, which takes the place of an older one of the charge point. -/
def connect (s : Switchboard) (station : String) : Nat × Switchboard :=
  let id := s.nextConnection
  (id, { s with
    connections := s.connections.insert id { id, station }
    online := s.online.insert station id
    nextConnection := id + 1 })

def connection? (s : Switchboard) (id : Nat) : Option Connection := s.connections.get? id

def isCurrent (s : Switchboard) (c : Connection) : Bool := s.online.get? c.station == some c.id

/-- Takes a charge point off line, unless a newer connection took the place of this one. The Calls
that it did not answer are dropped. -/
def disconnect (s : Switchboard) (id : Nat) : Bool × Switchboard :=
  match s.connection? id with
  | some c =>
    if s.isCurrent c then
      (true, { s with
        online := s.online.erase c.station
        pending := s.pending.filter (·.station != c.station) })
    else (false, s)
  | none => (false, s)

def closeAll (s : Switchboard) : Switchboard := { s with online := ∅, pending := ∅ }

def hangUp (s : Switchboard) (id : Nat) : Switchboard :=
  { s with connections := s.connections.modify id fun c => { c with isOpen := false, outbox := [] } }

def send (s : Switchboard) (c : Connection) (text : String) : Except Error Switchboard :=
  match s.connection? c.id with
  | some c =>
    if c.isOpen then
      .ok { s with connections := s.connections.insert c.id { c with outbox := c.outbox ++ [text] } }
    else .error (.notConnected c.station)
  | none => .error (.notConnected c.station)

def noteCall (s : Switchboard) (id : Nat) (uniqueId : String) : Switchboard :=
  { s with
    connections := s.connections.modify id fun c => { c with lastCall := some uniqueId } }

def reply (s : Switchboard) (id : Nat) (answer : (uniqueId : String) → Frame) :
    Except Error Switchboard :=
  match s.connection? id with
  | none => .error (.format "no Call received on this connection")
  | some c =>
    match c.lastCall with
    | none => .error (.format "no Call received on this connection")
    | some uniqueId => s.send c (answer uniqueId).render

def request (s : Switchboard) (station : String) (command : Command) :
    Except Error (String × Switchboard) :=
  match (s.online.get? station).bind s.connection? with
  | none => .error (.notConnected station)
  | some c => do
    let id := uniqueId s.seed (s.issued + 1)
    let sent ← s.send c (command.encode id)
    return (id, { sent with
      pending := sent.pending.insert ⟨station, id⟩ command.action
      issued := s.issued + 1 })

/-- Takes the Call that an answer of a charge point is about off the list. -/
def takePending (s : Switchboard) (station uniqueId : String) : Option Action × Switchboard :=
  (s.pending.get? ⟨station, uniqueId⟩, { s with pending := s.pending.erase ⟨station, uniqueId⟩ })

def flush (s : Switchboard) : Switchboard :=
  { s with
    connections := s.connections.keys.foldl
      (fun t id => t.modify id fun c => { c with outbox := [] }) s.connections }

end Switchboard

end CentralSystem
