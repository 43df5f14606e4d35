import CentralSystem.Config
import CentralSystem.Message.Shape
import CentralSystem.Toml.Document

namespace CentralSystem

def BusyPolicy.enumeration : Enumeration BusyPolicy where
  all := [.accept, .reject]
  name
    | .accept => "accept"
    | .reject => "reject"

def LogFormat.enumeration : Enumeration LogFormat where
  all := [.text, .json]
  name
    | .text => "text"
    | .json => "json"

namespace Config

/-- The rules that differ between formats. -/
structure Format where
  /-- Whether a list may be longer than the group that it stands for. -/
  dropsExcess : Bool
  /-- What stands behind a word that is written as a group. -/
  isNothing : Setting → Bool

def Format.json : Format where
  dropsExcess := false
  isNothing
    | .absent => true
    | _ => false

def Format.toml : Format where
  dropsExcess := true
  isNothing
    | .list [] | .group [] => true
    | _ => false

def text? : Setting → Option String
  | .text s => some s
  | _ => none

def flag? : Setting → Option Bool
  | .flag b => some b
  | _ => none

def int32? : Setting → Option Int32
  | .number n => n.int32?
  | _ => none

def natBelow? (bound : Nat) : Setting → Option Nat
  | .number n => n.nat?.filter (· < bound)
  | _ => none

def list? (item : Setting → Option α) : Setting → Option (List α)
  | .list items => items.mapM item
  | _ => none

def optional? (read : Setting → Option α) : Setting → Option (Option α)
  | .absent => some none
  | s => (read s).map some

def word? (format : Format) (e : Enumeration α) : Setting → Option α
  | .text name => e.ofName? name
  | .group [(name, content)] => if format.isNothing content then e.ofName? name else none
  | _ => none

abbrev Members := List (String × Setting)

/-- The members of a group. It can also be written as a list, in the order of the names; what is left
out is at the end then. -/
def members? (format : Format) (names : List String) : Setting → Option Members
  | .group members => some members
  | .list items =>
    if names.length < items.length && !format.dropsExcess then none else some (names.zip items)
  | _ => none

def required (ms : Members) (name : String) (read : Setting → Option α) : Option α :=
  (ms.lookup name).bind read

def member (ms : Members) (name : String) (otherwise : α) (read : Setting → Option α) : Option α :=
  match ms.lookup name with
  | some s => read s
  | none => some otherwise

variable (format : Format)

def part? (ms : Members) (name : String) (names : List String)
    (read : Config → Members → Option Config) (c : Config) : Option Config :=
  match ms.lookup name with
  | some s => (members? format names s).bind (read c)
  | none => some c

def readServer (c : Config) (ms : Members) : Option Config := do
  return { c with
    host := ← member ms "host" c.host text?
    port := .ofNat (← member ms "port" c.port.toNat (natBelow? (2 ^ 16)))
    shutdownTimeout :=
      ← member ms "shutdown_timeout_secs" c.shutdownTimeout (natBelow? (2 ^ 64)) }

def readOcpp (c : Config) (ms : Members) : Option Config := do
  return { c with
    subprotocols := ← member ms "subprotocols" c.subprotocols (list? text?)
    heartbeatInterval :=
      .ofNat (← member ms "heartbeat_interval" c.heartbeatInterval.toNat (natBelow? (2 ^ 32)))
    autoRegisterChargePoints :=
      ← member ms "auto_register_charge_points" c.autoRegisterChargePoints flag?
    autoRegisterTags := ← member ms "auto_register_tags" c.autoRegisterTags flag?
    busyPolicy :=
      ← member ms "busy_connector_policy" c.busyPolicy (word? format BusyPolicy.enumeration) }

def readLoadBalancer (c : Config) (ms : Members) : Option Config := do
  return { c with
    sharesPower := ← member ms "enabled" c.sharesPower flag?
    tiers :=
      { high := ← member ms "high_amps" c.tiers.high int32?
        middle := ← member ms "middle_amps" c.tiers.middle int32?
        floor := ← member ms "floor_amps" c.tiers.floor int32? } }

def readTrigger (c : Config) (ms : Members) : Option Config := do
  return { c with
    watches := ← member ms "enabled" c.watches flag?
    watchInterval := ← member ms "interval_secs" c.watchInterval (natBelow? (2 ^ 64)) }

def readLogging (c : Config) (ms : Members) : Option Config := do
  return { c with
    logLevel := ← member ms "level" c.logLevel text?
    logFormat := ← member ms "format" c.logFormat (word? format LogFormat.enumeration) }

def location? (s : Setting) : Option Location := do
  let ms ← members? format
    ["id", "name", "default_power_limit", "power_limit", "charge_points"] s
  return {
    id := ← required ms "id" text?
    name := ← member ms "name" "" text?
    defaultLimit := ← member ms "default_power_limit" 0 int32?
    powerLimit := ← member ms "power_limit" 0 int32?
    chargePoints := ← member ms "charge_points" [] (list? text?) }

def chargePoint? (s : Setting) : Option ChargePoint := do
  let ms ← members? format ["id", "enabled", "location_id", "smart_charging"] s
  return {
    id := ← required ms "id" text?
    enabled := ← member ms "enabled" true flag?
    location := ← member ms "location_id" none (optional? text?)
    smartCharging := ← member ms "smart_charging" false flag? }

def userTag? (s : Setting) : Option UserTag := do
  let ms ← members? format ["id_tag", "username", "note", "enabled"] s
  return {
    idTag := ← required ms "id_tag" text?
    username := ← member ms "username" "" text?
    note := ← member ms "note" "" text?
    enabled := ← member ms "enabled" true flag? }

def ofSetting? (s : Setting) : Option Config := do
  let ms ← members? format ["server", "ocpp", "load_balancer", "trigger", "logging", "locations",
    "charge_points", "user_tags"] s
  let c : Config := {
    locations := ← member ms "locations" [] (list? (location? format))
    chargePoints := ← member ms "charge_points" [] (list? (chargePoint? format))
    userTags := ← member ms "user_tags" [] (list? (userTag? format)) }
  let c ← part? format ms "server" ["host", "port", "shutdown_timeout_secs"] readServer c
  let c ← part? format ms "ocpp" ["subprotocols", "heartbeat_interval",
    "auto_register_charge_points", "auto_register_tags", "busy_connector_policy"]
    (readOcpp format) c
  let c ← part? format ms "load_balancer"
    ["enabled", "high_amps", "middle_amps", "floor_amps"] readLoadBalancer c
  let c ← part? format ms "trigger" ["enabled", "interval_secs"] readTrigger c
  part? format ms "logging" ["level", "format"] (readLogging format) c

def ofJson? (j : Json) : Option Config := ofSetting? .json (.ofJson j)

def ofText? (text : String) : Option Config := (Toml.parse? text).bind (ofSetting? .toml)

def load (path text : String) : Except ConfigError Config :=
  match ofText? text with
  | some c => c.validate
  | none => .error (.malformed path)

def locationJson (l : Location) : Json :=
  .ofMembers [("id", .string l.id), ("name", .string l.name),
    ("default_power_limit", .ofInt l.defaultLimit.toInt), ("power_limit", .ofInt l.powerLimit.toInt),
    ("charge_points", .array (l.chargePoints.map .string))]

def chargePointJson (cp : ChargePoint) : Json :=
  .ofMembers [("id", .string cp.id), ("enabled", .bool cp.enabled),
    ("location_id", cp.location.elim .null .string), ("smart_charging", .bool cp.smartCharging)]

def userTagJson (t : UserTag) : Json :=
  .ofMembers [("id_tag", .string t.idTag), ("username", .string t.username),
    ("note", .string t.note), ("enabled", .bool t.enabled)]

def toJson (c : Config) : Json :=
  .ofMembers [
    ("server", .ofMembers [("host", .string c.host), ("port", .ofNat c.port.toNat),
      ("shutdown_timeout_secs", .ofNat c.shutdownTimeout)]),
    ("ocpp", .ofMembers [("subprotocols", .array (c.subprotocols.map .string)),
      ("heartbeat_interval", .ofNat c.heartbeatInterval.toNat),
      ("auto_register_charge_points", .bool c.autoRegisterChargePoints),
      ("auto_register_tags", .bool c.autoRegisterTags),
      ("busy_connector_policy", .string (BusyPolicy.enumeration.name c.busyPolicy))]),
    ("load_balancer", .ofMembers [("enabled", .bool c.sharesPower),
      ("high_amps", .ofInt c.tiers.high.toInt), ("middle_amps", .ofInt c.tiers.middle.toInt),
      ("floor_amps", .ofInt c.tiers.floor.toInt)]),
    ("trigger", .ofMembers [("enabled", .bool c.watches),
      ("interval_secs", .ofNat c.watchInterval)]),
    ("logging", .ofMembers [("level", .string c.logLevel),
      ("format", .string (LogFormat.enumeration.name c.logFormat))]),
    ("locations", .array (c.locations.map locationJson)),
    ("charge_points", .array (c.chargePoints.map chargePointJson)),
    ("user_tags", .array (c.userTags.map userTagJson))]

end Config

end CentralSystem
