import Std.Time.DateTime.Timestamp
import Signalgrid.CommandLine.Report
import Signalgrid.Settings.File
import Signalgrid.Service

set_option autoImplicit false

namespace Signalgrid.Main

def network : Link := .down "no network"

def now : IO Instant := do
  let t ← Std.Time.Timestamp.now
  pure ((Instant.ofNanos? t.toNanosecondsSinceUnixEpoch.val).getD .epoch)

def content (path : String) : IO (Option Bytes) := do
  try
    let bytes ← IO.FS.readBinFile path
    pure (some bytes.toList)
  catch _ => pure none

def environment : IO Environment := do
  let relay ← IO.getEnv "CROSSWAY_RELAY_ADDR"
  let primary ← IO.getEnv "CROSSWAY_PRIMARY_ADDR"
  let heartbeat ← IO.getEnv "CROSSWAY_PRIMARY_HEARTBEAT_ADDR"
  let logLevel ← IO.getEnv "CROSSWAY_LOG"
  pure ⟨relay, primary, heartbeat, logLevel⟩

def fail (message : String) : IO UInt32 := do
  IO.eprintln ("Error: " ++ message)
  pure 1

def fileMessage (path : String) : FileFault → String
  | .unreadable => "unable to read config " ++ path
  | .badTable => "invalid TOML config " ++ path
  | .badJson e => "invalid JSON config " ++ path ++ ": " ++ e.message

def checkConfig (path : String) : IO UInt32 := do
  match Settings.check path (← content path) with
  | .ok text =>
      IO.print text
      pure 0
  | .error (.file e) => fail (fileMessage path e)
  | .error (.settings e) => fail e.message

partial def serveLines {σ : Type} (step : σ → Bytes → IO (Option (σ × List Json))) (s : σ) : IO Unit := do
  let line ← (← IO.getStdin).getLine
  if line.isEmpty then pure ()
  else
    match ← step s line.toUTF8.toList with
    | none => pure ()
    | some (s, answers) =>
        for answer in answers do
          IO.println answer.compact
        (← IO.getStdout).flush
        serveLines step s

def gatewayStep (room : ControlRoom) (line : Bytes) : IO (Option (ControlRoom × List Json)) := do
  let (responses, room) := room.gateway (← now) line
  pure (some (room.drain, responses.map Response.encode))

def hostStep (store : LogStore) (line : Bytes) : IO (Option (LogStore × List Json)) :=
  let served := Host.serve store line
  pure (some (served.store, served.responses.map StoreResponse.encode))

def withSettings (path : String) (run : Settings → IO UInt32) : IO UInt32 := do
  match Settings.ofFile path (← content path) with
  | .ok s => run (s.override (← environment))
  | .error e => fail (fileMessage path e)

def start (path : String) : IO UInt32 :=
  withSettings path fun s => do
    match Service.start s network (← now) with
    | .ok room =>
        serveLines gatewayStep room
        pure 0
    | .error e => fail e.message

def host (path : String) : IO UInt32 :=
  withSettings path fun _ => do
    serveLines hostStep { name := "primary" }
    pure 0

def query (call : CommandLine.QueryCall) : IO UInt32 := do
  match call.operation.request? (← now), network with
  | none, _ => fail "history window out of range"
  | some _, .down reason => fail ("failed to connect to gateway at " ++ call.gateway ++ ": " ++ reason)
  | some r, .up =>
      IO.println r.encode.compact
      pure 0

def refuse (r : CommandLine.Refusal) : IO UInt32 := do
  match r with
  | .helpWanted =>
      IO.println "usage: crossway (start | store | check-config | query) ..."
      pure 0
  | .versionWanted =>
      IO.println "crossway 0.1.0"
      pure 0
  | _ =>
      IO.eprintln "usage: crossway (start | store | check-config | query) ..."
      pure 2

def run (args : List String) : IO UInt32 := do
  match CommandLine.parse args with
  | .ok (.checkConfig path) => checkConfig path
  | .ok (.start path) => start path
  | .ok (.store path) => host path
  | .ok (.query call) => query call
  | .error r => refuse r

end Signalgrid.Main

def main (args : List String) : IO UInt32 := Signalgrid.Main.run args
