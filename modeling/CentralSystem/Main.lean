import CentralSystem.Config.Format
import CentralSystem.Text

namespace CentralSystem

structure Options where
  config : Option String := none
  port : Option UInt16 := none
  logLevel : Option String := none
  check : Bool := false

namespace Options

def setPort (o : Options) (value : String) : Except String Options :=
  match value.toNat?.filter (· < 2 ^ 16) with
  | some n => .ok { o with port := some (.ofNat n) }
  | none => .error ("invalid port '" ++ value ++ "'")

def parse (o : Options) : List String → Except String Options
  | [] => .ok o
  | "--check" :: rest => parse { o with check := true } rest
  | flag :: value :: rest => do
    match flag with
    | "--config" | "-c" => parse { o with config := some value } rest
    | "--port" | "-p" => parse (← o.setPort value) rest
    | "--log-level" | "-l" => parse { o with logLevel := some value } rest
    | _ => .error ("unexpected argument '" ++ flag ++ "'")
  | [flag] => .error ("unexpected argument '" ++ flag ++ "'")

def apply (o : Options) (c : Config) : Config :=
  { c with port := o.port.getD c.port, logLevel := o.logLevel.getD c.logLevel }

end Options

namespace Config

def summary (c : Config) (source : Option String) : List String :=
  ["Configuration is valid",
    "   Config file   : " ++ source.getD "(defaults)",
    "   WS address    : " ++ c.address,
    "   Subprotocols  : [" ++ ", ".intercalate (c.subprotocols.map Text.quoted) ++ "]",
    "   Locations     : " ++ toString c.locations.length,
    "   Charge points : " ++ toString c.chargePoints.length,
    "   Log level     : " ++ c.logLevel]

end Config

def readFile (path : String) : IO (Except ConfigError (Option String)) := do
  try
    return .ok (some (← IO.FS.readFile path))
  catch
    | .noFileOrDirectory .. => return .ok none
    | _ => return .error (.unreadable path)

/-- The configuration at a path, and whether there is one. Without a file the defaults count. -/
def loadConfig (path : String) : IO (Except ConfigError (Config × Option String)) := do
  return match ← readFile path with
    | .ok (some text) => (Config.load path text).map (·, some path)
    | .ok none => (({} : Config).validate).map (·, none)
    | .error e => .error e

end CentralSystem

open CentralSystem in
def main (args : List String) : IO UInt32 := do
  match Options.parse {} args with
  | .error e =>
    IO.eprintln ("error: " ++ e)
    return 2
  | .ok options =>
    let path := Config.path options.config (← IO.getEnv "OCPP_CONFIG")
      (← IO.getEnv "XDG_CONFIG_HOME") ((← IO.getEnv "HOME").getD "")
    match ← loadConfig path with
    | .error e =>
      IO.eprintln ("Invalid configuration: " ++ e.message)
      return 1
    | .ok (config, source) =>
      let config := options.apply config
      if options.check then
        for line in config.summary source do IO.println line
        return 0
      else
        IO.eprintln ("Failed to start: nothing listens at " ++ config.address ++ " in this build")
        return 1
