import Signalgrid.ControlRoom

set_option autoImplicit false

namespace Signalgrid.Telemetry

structure Page where
  status : Nat
  body : String
  type : String
deriving Repr, DecidableEq

def bit (b : Bool) : Nat := if b then 1 else 0

def truth (b : Bool) : String := if b then "true" else "false"

def stateLine (label : String) (n : Nat) : String :=
  Counters.line ("crossway_intersections\x7bstate=\"" ++ label ++ "\"\x7d") n

def metrics (s : ControlRoom) : String :=
  let n := s.controller.stateCounts
  let w := s.archive.watch
  String.join
    [s.archive.counters.render,
      Counters.line "crossway_primary_healthy" (bit w.healthy),
      Counters.line "crossway_primary_consecutive_failures" w.failures,
      stateLine "NORMAL" n.normal,
      stateLine "CONGESTION" n.congestion,
      stateLine "GREEN_WAVE" n.greenWave,
      Counters.line "crossway_audit_events" s.archive.audit.size]

def ready (s : ControlRoom) : Page :=
  let w := s.archive.watch
  { status := if w.healthy then 200 else 503
    body :=
      "\x7b\"ready\":" ++ truth w.healthy ++ ",\"failover\":\"" ++ w.label ++
        "\",\"consecutive_failures\":" ++ toString w.failures ++ ",\"authoritative_store\":\"" ++
        s.archive.authoritative.name ++ "\"\x7d"
    type := "application/json" }

def live (s : ControlRoom) : Page :=
  ⟨200, "\x7b\"live\":true,\"intersections\":" ++ toString s.controller.grid.ids.length ++ "\x7d",
    "application/json"⟩

def isDirective (d : List Char) : Bool := (d.filter (· == '=')).length ≤ 1

def levelOk (level : List Char) : Bool := (level.splitOnP (· == ',')).all isDirective

def levelMark : List Char := ['l', 'e', 'v', 'e', 'l', '=']

def levelStatus (reloadable : Bool) (query : List Char) : String :=
  if !reloadable then "logging not reloadable"
  else if levelMark.isPrefixOf query then
    if levelOk (query.drop levelMark.length) then "ok" else "invalid level"
  else "missing level"

def levelPage (reloadable : Bool) (query : List Char) : Page :=
  ⟨200, "\x7b\"status\":\"" ++ levelStatus reloadable query ++ "\"\x7d", "application/json"⟩

def page (s : ControlRoom) (reloadable : Bool) (route query : List Char) : Page :=
  match String.ofList route with
  | "/metrics" => ⟨200, metrics s, "text/plain"⟩
  | "/readyz" => ready s
  | "/livez" => live s
  | "/v1/loglevel" => levelPage reloadable query
  | _ => ⟨404, "not found", "text/plain"⟩

def reason (status : Nat) : String :=
  match status with
  | 200 => "OK"
  | 404 => "Not Found"
  | _ => "Service Unavailable"

def Page.render (p : Page) : String :=
  "HTTP/1.1 " ++ toString p.status ++ " " ++ reason p.status ++ "\r\nContent-Type: " ++ p.type ++
    "\r\nContent-Length: " ++ toString p.body.utf8ByteSize ++ "\r\nConnection: close\r\n\r\n" ++ p.body

def words (cs : List Char) : List (List Char) :=
  ((cs.map fun c => if Text.isBlank c then ' ' else c).splitOnP (· == ' ')).filter (!·.isEmpty)

def target (request : List Char) : List Char :=
  ((words (request.takeWhile (· != '\n')))[1]?).getD ['/']

def maxRequest : Nat := 4096

def respond (s : ControlRoom) (reloadable : Bool) (raw : Bytes) : String :=
  let t := target (Text.decodeLossy (raw.take maxRequest))
  match Text.splitOnce '?' t with
  | some (route, query) => (page s reloadable route query).render
  | none => (page s reloadable t []).render

end Signalgrid.Telemetry
