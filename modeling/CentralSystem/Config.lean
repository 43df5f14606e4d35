import CentralSystem.Settings
import CentralSystem.Storage

namespace CentralSystem

inductive LogFormat where
  | text
  | json
deriving DecidableEq, Inhabited, Repr

structure Config where
  host : String := "0.0.0.0"
  port : UInt16 := 9000
  /-- How long, in seconds, connections may take to end. -/
  shutdownTimeout : Nat := 10
  /-- The subprotocols that are spoken, the preferred one first; none for any. -/
  subprotocols : List String := ["ocpp1.6"]
  heartbeatInterval : UInt32 := 600
  autoRegisterChargePoints : Bool := false
  autoRegisterTags : Bool := false
  busyPolicy : BusyPolicy := .accept
  sharesPower : Bool := true
  tiers : PowerTiers := ⟨150, 100, 50⟩
  watches : Bool := true
  /-- The seconds between two rounds of questions to the watched connectors. -/
  watchInterval : Nat := 20
  logLevel : String := "info"
  logFormat : LogFormat := .text
  locations : List Location := []
  chargePoints : List ChargePoint := []
  userTags : List UserTag := []
deriving DecidableEq, Inhabited

inductive ConfigError where
  | unreadable (path : String)
  | malformed (path : String)
  | heartbeat
  | watchInterval
  | tiers (tiers : PowerTiers)
  | unknownLocation (station location : String)
deriving DecidableEq, Repr

def ConfigError.message : ConfigError → String
  | unreadable path => "failed to read " ++ path
  | malformed path => "failed to parse " ++ path
  | heartbeat => "invalid configuration: ocpp.heartbeat_interval must be positive"
  | watchInterval => "invalid configuration: trigger.interval_secs must be positive"
  | tiers t =>
    "invalid configuration: load_balancer tiers must be strictly descending and positive, got " ++
      "/".intercalate ([t.high, t.middle, t.floor].map toString)
  | unknownLocation station location =>
    "invalid configuration: charge point " ++ station ++ " references unknown location " ++ location

namespace Config

def address (c : Config) : String := c.host ++ ":" ++ toString c.port

def stray? (c : Config) : Option (String × String) :=
  c.chargePoints.findSome? fun cp =>
    cp.location.bind fun location =>
      if c.locations.any (·.id == location) then none else some (cp.id, location)

def fault? (c : Config) : Option ConfigError :=
  if c.heartbeatInterval = 0 then some .heartbeat
  else if c.watches ∧ c.watchInterval = 0 then some .watchInterval
  else if !c.tiers.isDescending then some (.tiers c.tiers)
  else c.stray?.map fun (station, location) => .unknownLocation station location

def validate (c : Config) : Except ConfigError Config :=
  match c.fault? with
  | some e => .error e
  | none => .ok c

def settings (c : Config) : Settings where
  heartbeatInterval := c.heartbeatInterval
  autoRegisterChargePoints := c.autoRegisterChargePoints
  autoRegisterTags := c.autoRegisterTags
  busyPolicy := c.busyPolicy
  tiers := if c.sharesPower then some c.tiers else none
  watching := c.watches

/-- The record of a charge point. One that names no location belongs to the first that lists it. -/
def place (c : Config) (cp : ChargePoint) : ChargePoint :=
  match cp.location with
  | some _ => cp
  | none => { cp with location := (c.locations.find? (cp.id ∈ ·.chargePoints)).map (·.id) }

def database (c : Config) : Database :=
  let db : Database := c.locations.foldl Database.putLocation {}
  let db := c.chargePoints.foldl (fun db cp => db.putChargePoint (c.place cp)) db
  c.userTags.foldl Database.putTag db

def join (directory name : String) : String :=
  if directory.isEmpty || directory.endsWith "/" then directory ++ name
  else directory ++ "/" ++ name

/-- The directory for the configuration of users: the one that the environment gives, if it is an
absolute path, or else one in the home directory. -/
def userDirectory (given : Option String) (home : String) : String :=
  match given.filter (·.startsWith "/") with
  | some directory => directory
  | none => join home ".config"

/-- The path of the configuration file: the one that is asked for, or that the environment gives, or
else the one in the directory of the user. -/
def path (explicit environment userConfig : Option String) (home : String) : String :=
  (explicit <|> environment).getD
    (join (join (userDirectory userConfig home) "ocpp-csms") "config.toml")

end Config

end CentralSystem
