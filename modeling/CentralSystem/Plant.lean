import CentralSystem.Ledger.Basic
import CentralSystem.Switchboard

namespace CentralSystem

/-- The highest tier that nobody holds, or else the floor. -/
def PowerTiers.pick (tiers : PowerTiers) (held : List Int32) : Int32 :=
  ([tiers.high, tiers.middle].find? (!held.contains ·)).getD tiers.floor

structure Grant where
  chargePoint : String
  connector : UInt32
  transaction : Int32
  amps : Int32
deriving DecidableEq, Inhabited, Repr

namespace ChargingProfile

def ofLimit (id : Int32) (purpose : ProfilePurpose) (transaction : Option Int32) (amps : Int32)
    (now : Timestamp) : ChargingProfile where
  chargingProfileId := id
  transactionId := transaction
  stackLevel := 0
  chargingProfilePurpose := purpose
  chargingProfileKind := .absolute
  recurrencyKind := none
  validFrom := none
  validTo := none
  chargingSchedule :=
    { duration := none
      startSchedule := some now
      chargingRateUnit := .ampere
      chargingSchedulePeriod := [{ startPeriod := 0, limit := .ofInt32 amps, numberPhases := none }]
      minChargingRate := none }

end ChargingProfile

namespace Location

def defaultProfile (location : Location) (now : Timestamp) : Command :=
  if location.defaultLimit = 0 then
    .clearChargingProfile
      { id := none, connectorId := some 0, chargingProfilePurpose := some .txDefaultProfile,
        stackLevel := none }
  else
    .setChargingProfile
      { connectorId := 0
        csChargingProfiles := .ofLimit 1 .txDefaultProfile none location.defaultLimit now }

end Location

/-- The command that brings a grant to its connector. A connector whose number the command has no
room for cannot get one. -/
def Grant.command (g : Grant) (now : Timestamp) : Except Error Command :=
  if g.connector.toNat < 2 ^ 31 then
    .ok (.setChargingProfile
      { connectorId := .ofNat g.connector.toNat
        csChargingProfiles := .ofLimit g.transaction .txProfile (some g.transaction) g.amps now })
  else .error Mismatch.invalidNumber.toError

/-- What the sharing of power reads and changes: the ledger, and the switchboard for commands. -/
structure Plant where
  ledger : Ledger
  switchboard : Switchboard
deriving Inhabited

namespace Plant

def note (p : Plant) (n : Notice) : Plant := { p with ledger := p.ledger.note n }

def command (p : Plant) (station : String) (c : Command) (failed : Error → Notice) : Plant :=
  match p.switchboard.request station c with
  | .ok (_, switchboard) => { p with switchboard }
  | .error e => p.note (failed e)

def locationOf (p : Plant) (station : String) : Except Error (Option Location × Plant) := do
  match (← p.ledger.storage.chargePoint? station).bind (·.location) with
  | none => return (none, p)
  | some id =>
    match ← p.ledger.storage.location? id with
    | some location => return (some location, p)
    | none => return (none, p.note (.unknownLocation station id))

/-- The charge points of a location, in order: those that it lists, those whose record names it, and
the one that asks. -/
def members (p : Plant) (location : Location) (station : String) : Except Error (List String) := do
  let naming ← p.ledger.registry.stations.keys.filterM fun id => do
    if id ∈ location.chargePoints then return false
    return (← p.ledger.storage.chargePoint? id).any (·.location == some location.id)
  let all := location.chargePoints ++ station :: naming
  return (Table.ofList (all.map (·, ()))).keys

def connectors (p : Plant) (members : List String) : Except Error (List (String × Connector)) := do
  let smart ← members.filterM fun id => do
    return (← p.ledger.storage.chargePoint? id).any (·.smartCharging)
  return smart.flatMap fun id =>
    ((p.ledger.registry.stations.get? id).elim [] (·.connectors.values)).map (id, ·)

def setLimit (l : Ledger) (station : String) (c : Connector) (limit : Int32) : Ledger :=
  let l := { l with registry := l.registry.setConnector station { c with limit } }
  l.write (l.storage.updateConnectorLimit station c.id limit) (.limitNotPersisted station c.id)

def takeBack (l : Ledger) (connectors : List (String × Connector)) : Ledger :=
  (connectors.filter fun e => !e.2.isActive && e.2.limit != 0).foldl
    (fun l e => setLimit l e.1 e.2 0) l

def grant (tiers : PowerTiers) (l : Ledger) (held : List Int32) :
    List (String × Connector) → List Grant × List Int32 × Ledger
  | [] => ([], held, l)
  | (station, c) :: rest =>
    let amps := tiers.pick held
    let (grants, held, l) := grant tiers (setLimit l station c amps) (held ++ [amps]) rest
    (⟨station, c.id, c.transaction, amps⟩ :: grants, held, l)

def sendGrant (now : Timestamp) (p : Plant) (g : Grant) : Plant :=
  match g.command now with
  | .ok c => p.command g.chargePoint c (.profileNotSent g.chargePoint g.connector)
  | .error e => p.note (.profileNotBuilt e)

def add? (a b : Int32) : Option Int32 :=
  let sum := a.toInt + b.toInt
  if -2 ^ 31 ≤ sum ∧ sum < 2 ^ 31 then some (.ofInt sum) else none

def addUp? (amps : List Int32) : Option Int32 := amps.foldlM add? 0

def checkTotal (p : Plant) (location : Location) (total : Int32) : Plant :=
  if 0 < location.powerLimit ∧ location.powerLimit < total then
    p.note (.siteOverLimit location.id total location.powerLimit)
  else p

/-- Tells the connectors what they were granted. Where the limits cannot be added up the work ends
before that, with the limits set. -/
def announce (p : Plant) (now : Timestamp) (location : Location) (grants : List Grant)
    (held : List Int32) : Option (List Grant) × Plant :=
  match addUp? held with
  | none => (none, p.note .addOverflow)
  | some total => (some grants, grants.foldl (sendGrant now) (p.checkTotal location total))

def shareOut (p : Plant) (tiers : PowerTiers) (now : Timestamp) (location : Location)
    (connectors : List (String × Connector)) : Option (List Grant) × Plant :=
  let active := connectors.filter (·.2.isActive)
  let held := (active.map (·.2.limit)).filter (· != 0)
  let waiting := active.filter (·.2.limit == 0)
  let (grants, held, ledger) := grant tiers (takeBack p.ledger connectors) held waiting
  { p with ledger }.announce now location grants held

/-- Computes anew what the connectors at the location of a charge point may draw. -/
def checkPowerLimit (p : Plant) (tiers : PowerTiers) (now : Timestamp) (station : String) :
    Except Error (Option (List Grant) × Plant) := do
  match ← p.locationOf station with
  | (none, p) => return (some [], p)
  | (some location, p) =>
    return p.shareOut tiers now location (← p.connectors (← p.members location station))

def applyDefault (p : Plant) (now : Timestamp) (station : String) : Except Error Plant := do
  match ← p.locationOf station with
  | (none, p) => return p
  | (some location, p) =>
    return p.command station (location.defaultProfile now) (.defaultProfileNotSent station)

end Plant

end CentralSystem
