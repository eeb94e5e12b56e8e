import Signalgrid.Settings.Decode
import Signalgrid.Settings.Validate
import Signalgrid.Toml.Reader
import Signalgrid.Text.Utf8
import Signalgrid.Json.Writer

set_option autoImplicit false

namespace Signalgrid

inductive FileFault where
  | unreadable
  | badTable
  | badJson (fault : ReadFault)
deriving Repr, DecidableEq

structure Environment where
  relay : Option String := none
  primary : Option String := none
  heartbeat : Option String := none
  logLevel : Option String := none
deriving Repr, DecidableEq

def Environment.ofVariables (lookup : String → Option String) : Environment :=
  { relay := lookup "CROSSWAY_RELAY_ADDR"
    primary := lookup "CROSSWAY_PRIMARY_ADDR"
    heartbeat := lookup "CROSSWAY_PRIMARY_HEARTBEAT_ADDR"
    logLevel := lookup "CROSSWAY_LOG" }

namespace Settings

def jsonEnding : List Char := ['.', 'j', 's', 'o', 'n']

def lastPart (path : List Char) : List Char :=
  let trimmed := (path.reverse.dropWhile (· == '/')).reverse
  (trimmed.reverse.takeWhile (· != '/')).reverse

def isJsonFile (path : String) : Bool :=
  let name := lastPart path.toList
  jsonEnding.isSuffixOf name && jsonEnding.length < name.length

def ofText (path : String) (cs : List Char) : Except FileFault Settings :=
  if isJsonFile path then (decode.ofText cs).mapError .badJson
  else
    match Toml.read cs with
    | none => .error .badTable
    | some j => (decode .table j).mapError fun _ => .badTable

def ofFile (path : String) (content : Option Bytes) : Except FileFault Settings :=
  match content.map Text.decodeUtf8 with
  | some (.ok cs) => ofText path cs
  | _ => .error .unreadable

def override (e : Environment) (s : Settings) : Settings :=
  { s with
    ingest :=
      match e.relay with
      | some relay => { s.ingest with relay := if relay.isEmpty then none else some relay }
      | none => s.ingest
    primary :=
      { s.primary with
        address := e.primary.getD s.primary.address
        heartbeat := e.heartbeat.getD s.primary.heartbeat }
    telemetry :=
      match e.logLevel with
      | some level => { s.telemetry with logLevel := some level }
      | none => s.telemetry }

def summary (path : String) (s : Settings) : Json :=
  .obj
    [("config", .str path), ("gateway", .str s.gateway.bind),
      ("intersections", .nat s.intersections.length), ("primary", .str s.primary.address),
      ("primary_heartbeat", .str s.primary.heartbeat), ("relay", Json.ofOption .str s.ingest.relay),
      ("sensors", .nat s.sensorMap.length)]

def summaryText (path : String) (s : Settings) : String := (s.summary path).pretty ++ "\n"

end Settings

inductive CheckFault where
  | file (fault : FileFault)
  | settings (fault : SettingsFault)
deriving Repr, DecidableEq

def Settings.check (path : String) (content : Option Bytes) : Except CheckFault String := do
  let s ← (Settings.ofFile path content).mapError .file
  s.validate.mapError .settings
  .ok (s.summaryText path)

end Signalgrid
