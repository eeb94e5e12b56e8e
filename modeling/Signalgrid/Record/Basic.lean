import Signalgrid.Control.Traffic

set_option autoImplicit false

namespace Signalgrid

structure DecisionRow where
  intersection : IntersectionId
  previous : TrafficKind
  current : TrafficKind
  action : Action
  details : String
  metrics : Json
  recordedAt : Instant

inductive OverrideKind where
  | greenWave
  | forceChange
deriving Repr, DecidableEq

namespace OverrideKind

def label : OverrideKind → String
  | .greenWave => "GREEN_WAVE"
  | .forceChange => "FORCE_CHANGE"

def encode (k : OverrideKind) : Json := .str k.label

def decode : Decoder OverrideKind :=
  Decode.choice [("GREEN_WAVE", .greenWave), ("FORCE_CHANGE", .forceChange)]

end OverrideKind

structure Override where
  kind : OverrideKind
  target : String
  reason : String
  requestedBy : String
  affected : List IntersectionId
  requestedAt : Instant
deriving DecidableEq

inductive Record where
  | event (r : Reading)
  | change (t : Transition)
  | decision (d : DecisionRow)
  | action (a : Override)

namespace Record

def kind : Record → String
  | .event _ => "sensor_event"
  | .change _ => "semaphore_change"
  | .decision _ => "decision"
  | .action _ => "priority_action"

def intersection? : Record → Option IntersectionId
  | .event r => some r.intersection
  | .change t => some t.intersection
  | .decision d => some d.intersection
  | .action _ => none

def event? : Record → Option Reading
  | .event r => some r
  | _ => none

def change? : Record → Option Transition
  | .change t => some t
  | _ => none

def decision? : Record → Option DecisionRow
  | .decision d => some d
  | _ => none

def action? : Record → Option Override
  | .action a => some a
  | _ => none

end Record

structure Totals where
  events : Nat := 0
  congestions : Nat := 0
  greenWaves : Nat := 0
  changes : Nat := 0
deriving Repr, DecidableEq

namespace Totals

def add (t : Totals) : Record → Totals
  | .event _ => { t with events := t.events + 1 }
  | .change _ => { t with changes := t.changes + 1 }
  | .decision d => if d.current = .congestion then { t with congestions := t.congestions + 1 } else t
  | .action a => if a.kind = .greenWave then { t with greenWaves := t.greenWaves + 1 } else t

def ofRecords (rs : List Record) : Totals := rs.foldl add {}

end Totals

open Decode Json

namespace DecisionRow

def members (d : DecisionRow) : List Json.Member :=
  [("intersection", .str d.intersection), ("previous_state", d.previous.encode),
    ("traffic_state", d.current.encode), ("decision", d.action.encode), ("details", .str d.details),
    ("metrics", d.metrics), ("recorded_at", d.recordedAt.encode)]

def encode (d : DecisionRow) : Json := .obj d.members

def decode : Decoder DecisionRow :=
  record "struct DecisionRecord" <|
    Fields.of DecisionRow.mk
      |>.needs "intersection" string
      |>.needs "previous_state" TrafficKind.decode
      |>.needs "traffic_state" TrafficKind.decode
      |>.needs "decision" Action.decode
      |>.needs "details" string
      |>.needs "metrics" tree
      |>.needs "recorded_at" instant

end DecisionRow

namespace Override

def members (a : Override) : List Json.Member :=
  [("action_type", a.kind.encode), ("target", .str a.target), ("reason", .str a.reason),
    ("requested_by", .str a.requestedBy), ("affected_intersections", strings a.affected),
    ("requested_at", a.requestedAt.encode)]

def encode (a : Override) : Json := .obj a.members

def decode : Decoder Override :=
  record "struct PriorityActionRecord" <|
    Fields.of Override.mk
      |>.needs "action_type" OverrideKind.decode
      |>.needs "target" string
      |>.needs "reason" string
      |>.needs "requested_by" string
      |>.needs "affected_intersections" (list string)
      |>.needs "requested_at" instant

end Override

namespace Record

def members : Record → List Json.Member
  | .event r => r.members
  | .change t => t.members
  | .decision d => d.members
  | .action a => a.members

def encode (r : Record) : Json := .obj (("record", .str r.kind) :: r.members)

def mapped {α β : Type} (f : α → β) (d : Decoder α) : Decoder β := fun s j => (d s j).map f

def decode : Decoder Record :=
  tagged "record" "WriteRecord"
    [("sensor_event", mapped .event Reading.decode),
     ("semaphore_change", mapped .change Transition.decode),
     ("decision", mapped .decision DecisionRow.decode),
     ("priority_action", mapped .action Override.decode)]

end Record

namespace Totals

def encode (t : Totals) : Json :=
  .obj
    [("sensor_events", .nat t.events), ("congestion_detections", .nat t.congestions),
      ("green_waves", .nat t.greenWaves), ("semaphore_changes", .nat t.changes)]

def decode : Decoder Totals :=
  record "struct StoreSummary" <|
    Fields.of Totals.mk
      |>.needs "sensor_events" u64
      |>.needs "congestion_detections" u64
      |>.needs "green_waves" u64
      |>.needs "semaphore_changes" u64

end Totals

end Signalgrid
