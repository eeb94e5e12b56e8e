import Signalgrid.Gateway.Request
import Signalgrid.Store.Query
import Signalgrid.Failover.Watch
import Signalgrid.Telemetry.Counters

set_option autoImplicit false

namespace Signalgrid

structure StatusReply where
  view : View
  events : List Reading := []
  lastChange : Option Transition := none
  -- The store that answered, or why none did.
  source : Option String := none
  storeFault : Option String := none

structure HistoryReply where
  source : String
  start : Instant
  stop : Instant
  rows : List DecisionRow

structure SummaryReply where
  watch : Watch
  intersections : Nat
  states : StateCounts
  totals : Option Totals
  overrides : List Override
  source : Option String
  storeFault : Option String
  counters : Counters
  alerts : Nat

inductive Answer where
  | status (r : StatusReply)
  | history (r : HistoryReply)
  | greenWave (r : WaveOutcome)
  | manualChange (r : HoldOutcome)
  | summary (r : SummaryReply)
  | health (watch : Watch) (asOf : Instant)

abbrev Response := Except RequestFault Answer

open Json

namespace StatusReply

def encode (r : StatusReply) : Json :=
  .obj
    (r.view.members ++
      [("recent_events", .arr (r.events.map Reading.encode)),
        ("last_recorded_change", ofOption Transition.encode r.lastChange),
        ("source", ofOption .str r.source), ("store_error", ofOption .str r.storeFault)])

end StatusReply

namespace HistoryReply

def encode (r : HistoryReply) : Json :=
  .obj
    [("source", .str r.source), ("from", r.start.encode), ("to", r.stop.encode),
      ("records", .arr (r.rows.map DecisionRow.encode))]

end HistoryReply

def WaveOutcome.encode (r : WaveOutcome) : Json :=
  .obj [("affected", strings r.affected), ("expires_at", r.expiresAt.encode)]

def HoldOutcome.encode (r : HoldOutcome) : Json :=
  .obj
    [("intersection", .str r.intersection), ("color", r.color.encode), ("applied", .bool r.applied)]

namespace SummaryReply

def encode (r : SummaryReply) : Json :=
  .obj
    [("failover", r.watch.encode), ("intersections", .nat r.intersections),
      ("states", r.states.encode), ("totals", ofOption Totals.encode r.totals),
      ("recent_overrides", .arr (r.overrides.map Override.encode)),
      ("source", ofOption .str r.source), ("store_error", ofOption .str r.storeFault),
      ("counters", r.counters.encode), ("alerts", .nat r.alerts)]

end SummaryReply

namespace Answer

def kind : Answer → String
  | .status _ => "intersection_status"
  | .history _ => "congestion_history"
  | .greenWave _ => "green_wave"
  | .manualChange _ => "manual_change"
  | .summary _ => "summary"
  | .health .. => "health"

def data : Answer → Json
  | .status r => r.encode
  | .history r => r.encode
  | .greenWave r => r.encode
  | .manualChange r => r.encode
  | .summary r => r.encode
  | .health watch asOf =>
      .obj [("live", .bool true), ("failover", watch.encode), ("as_of", asOf.encode)]

def encode (a : Answer) : Json := .obj [("type", .str a.kind), ("data", a.data)]

end Answer

def Response.encode : Response → Json
  | .ok a => .obj [("status", .str "ok"), ("result", a.encode)]
  | .error e => .obj [("status", .str "error"), ("error", e.encode)]

end Signalgrid
