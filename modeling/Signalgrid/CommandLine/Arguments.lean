import Signalgrid.CommandLine.Grammar
import Signalgrid.Gateway.Request

set_option autoImplicit false

namespace Signalgrid.CommandLine

inductive Operation where
  | status (intersection : String)
  | history (start stop : Option Instant) (intersection : Option String)
  | greenWave (route : Route) (reason requestedBy : Option String)
  | manual (intersection : String) (color : Color) (requestedBy : Option String)
  | summary
  | health
deriving DecidableEq

structure QueryCall where
  gateway : String
  timeoutMillis : Nat
  compact : Bool
  operation : Operation
deriving DecidableEq

inductive Invocation where
  | start (config : String)
  | store (config : String)
  | checkConfig (config : String)
  | query (call : QueryCall)
deriving DecidableEq

def digitsValue? (cs : List Char) : Option Nat :=
  if cs.isEmpty || cs.any (fun c => !c.isDigit) then none
  else some (cs.foldl (fun n c => 10 * n + (c.toNat - 48)) 0)

def unsigned? (s : String) : Option Nat :=
  match s.toList with
  | '+' :: ds => digitsValue? ds
  | ds => digitsValue? ds

def u64? (s : String) : Option Nat := (unsigned? s).filter (· < 18446744073709551616)

def u32? (s : String) : Option Nat :=
  match s.toList with
  | '-' :: ds => (digitsValue? ds).filter (· = 0)
  | _ => (unsigned? s).filter (· < 4294967296)

def instant? (s : String) : Option Instant := (Instant.ofRelaxed s).toOption

def color? (s : String) : Option Color :=
  if s = "red" then some .red else if s = "green" then some .green else none

def readable {α : Type} (f : String → Option α) (refusal : Refusal) (s : String) : Option Refusal :=
  if (f s).isSome then none else some refusal

def pathCheck (s : String) : Option Refusal := if s.isEmpty then some .badChoice else none

def configParam : Param := { name := "config", short := some 'c', check := pathCheck }

def configured : Command := { options := [configParam] }

def statusCommand : Command := { places := [{ name := "intersection" }] }

def historyCommand : Command where
  options :=
    [{ name := "from", check := readable instant? .badValue },
      { name := "to", check := readable instant? .badValue },
      { name := "intersection" }]

def greenWaveCommand : Command where
  options :=
    [{ name := "intersections", arity := .many },
      { name := "row" },
      { name := "column", check := readable u32? .badValue },
      { name := "reason" },
      { name := "requested-by" }]
  exclusive := ["intersections", "row", "column"]

def manualCommand : Command where
  options := [{ name := "requested-by" }]
  places := [{ name := "intersection" }, { name := "color", check := readable color? .badChoice }]

def queryCommand : Command where
  options :=
    [{ name := "gateway" },
      { name := "timeout-ms", check := readable u64? .badValue },
      { name := "compact", arity := .flag }]
  inner :=
    [("status", statusCommand), ("history", historyCommand), ("green-wave", greenWaveCommand),
      ("manual", manualCommand), ("summary", {}), ("health", {})]

def program : Command where
  versioned := true
  inner :=
    [("start", configured), ("store", configured), ("query", queryCommand), ("check-config", configured)]

def defaultConfig : String := "config/crossway.toml"
def defaultHostConfig : String := "config/primary.toml"
def defaultGateway : String := "127.0.0.1:5562"
def defaultTimeoutMillis : Nat := 3000

def routeOf (g : Given) : Route :=
  match (g.value? "column").bind u32?, g.value? "row" with
  | some column, _ => .column column
  | none, some row => .row row
  | none, none => .intersections (g.values "intersections")

def operation? (name : String) (g : Given) : Option Operation :=
  match name with
  | "status" => (g.value? "intersection").map .status
  | "history" =>
      some (.history ((g.value? "from").bind instant?) ((g.value? "to").bind instant?)
        (g.value? "intersection"))
  | "green-wave" => some (.greenWave (routeOf g) (g.value? "reason") (g.value? "requested-by"))
  | "manual" => do
      some (.manual (← g.value? "intersection") (← (g.value? "color").bind color?) (g.value? "requested-by"))
  | "summary" => some .summary
  | "health" => some .health
  | _ => none

def queryCall (g : Given) (operation : Operation) : QueryCall :=
  { gateway := (g.value? "gateway").getD defaultGateway
    timeoutMillis := ((g.value? "timeout-ms").bind u64?).getD defaultTimeoutMillis
    compact := g.has "compact"
    operation := operation }

def invocation? : List Level → Option Invocation
  | [_, ⟨"start", g⟩] => some (.start ((g.value? "config").getD defaultConfig))
  | [_, ⟨"store", g⟩] => some (.store ((g.value? "config").getD defaultHostConfig))
  | [_, ⟨"check-config", g⟩] => some (.checkConfig ((g.value? "config").getD defaultConfig))
  | [_, ⟨"query", g⟩, ⟨name, h⟩] => (operation? name h).map fun op => .query (queryCall g op)
  | _ => none

def parse (args : List String) : Except Refusal Invocation := do
  let levels ← read "crossway" program args
  match invocation? levels with
  | some i => .ok i
  | none => .error .missingArgument

def historySpan : Span := ⟨-3600000000000⟩

def Operation.request? (now : Instant) : Operation → Option Request
  | .status intersection => some (.status intersection)
  | .history start stop intersection =>
      let stop := stop.getD now
      (stop.add? historySpan).map fun hourBefore =>
        .history (start.getD hourBefore) stop intersection
  | .greenWave route reason requestedBy => some (.greenWave route reason requestedBy)
  | .manual intersection color requestedBy => some (.manualChange intersection color requestedBy)
  | .summary => some .summary
  | .health => some .health

end Signalgrid.CommandLine
