import Signalgrid.Control.Cell
import Signalgrid.Grid
import Signalgrid.Audit

set_option autoImplicit false

namespace Signalgrid

structure Controller where
  grid : Grid
  policy : Policy
  cells : List (IntersectionId × Cell)

inductive ControlFault where
  | unknownIntersection (name : String)
  | badRoute (fault : GridFault)
deriving Repr, DecidableEq

structure Effects where
  records : List Record := []
  changes : Nat := 0
  transitions : Nat := 0
  alerts : List Alert := []

structure IngestOutcome where
  traffic : TrafficKind
  color : Color
  action : Option Action
  records : Nat

structure WaveOutcome where
  affected : List IntersectionId
  expiresAt : Instant

structure HoldOutcome where
  intersection : IntersectionId
  color : Color
  applied : Bool

structure View where
  intersection : IntersectionId
  traffic : Traffic
  signal : Signal
  snapshot : Snapshot
  asOf : Instant

structure StateCounts where
  normal : Nat := 0
  congestion : Nat := 0
  greenWave : Nat := 0
deriving Repr, DecidableEq

namespace Effects

def ofPass (p : Pass) : Effects := ⟨p.records, p.changes, p.transitions, []⟩

def append (a b : Effects) : Effects :=
  ⟨a.records ++ b.records, a.changes + b.changes, a.transitions + b.transitions, a.alerts ++ b.alerts⟩

end Effects

namespace Controller

def ofSettings (s : Settings) (now : Instant) : Controller :=
  let grid := Grid.ofSettings s
  ⟨grid, .ofSettings s, (Grid.distinct [] grid.ids).map fun id => (id, .start now)⟩

def cell? (c : Controller) (id : IntersectionId) : Option Cell := c.cells.lookup id

def setCell (c : Controller) (id : IntersectionId) (cell : Cell) : Controller :=
  { c with cells := c.cells.map fun p => if p.1 = id then (id, cell) else p }

def need (c : Controller) (id : IntersectionId) : Except ControlFault Cell :=
  match c.cell? id with
  | some cell => .ok cell
  | none => .error (.unknownIntersection id)

def resolve (c : Controller) (name : String) : Except ControlFault IntersectionId :=
  (c.grid.resolve name).mapError fun _ => .unknownIntersection name

def ingest (c : Controller) (now : Instant) (r : Reading) :
    Except ControlFault (Controller × Effects × IngestOutcome) := do
  let cell ← c.need r.intersection
  let (p, action) := cell.ingest c.policy now r
  let e := Effects.ofPass p
  .ok (c.setCell r.intersection p.cell, { e with records := .event r :: e.records },
    ⟨p.cell.traffic.kind, p.cell.signal.color, action, p.records.length + 1⟩)

def sweepCells (now : Instant) : List IntersectionId → Controller × Effects → Controller × Effects
  | [], done => done
  | id :: rest, (c, e) =>
      match c.cell? id with
      | none => sweepCells now rest (c, e)
      | some cell =>
          let p := cell.sweep c.policy id now
          sweepCells now rest (c.setCell id p.cell, e.append (.ofPass p))

def sweep (c : Controller) (now : Instant) : Controller × Effects := sweepCells now c.grid.ids (c, {})

def waveCells (reason : String) (now : Instant) :
    List (IntersectionId × Cell) → Controller × Effects → Controller × Effects
  | [], done => done
  | (id, cell) :: rest, (c, e) =>
      let p := cell.wave c.policy id reason now
      waveCells reason now rest (c.setCell id p.cell, e.append (.ofPass p))

def waveAlert (target reason requestedBy : String) (n : Nat) (expiresAt now : Instant) : Alert :=
  ⟨"green_wave", target,
    reason ++ "; " ++ toString n ++ " intersections green until " ++ expiresAt.toProse ++
      " (requested by " ++ requestedBy ++ ")", some now⟩

/-- The route is checked as a whole before anything changes. -/
def wave (c : Controller) (now : Instant) (route : Route) (reason requestedBy : String) :
    Except ControlFault (Controller × Effects × WaveOutcome) := do
  let affected ← (c.grid.expand route).mapError .badRoute
  let cells ← affected.mapM fun id => (c.need id).map (id, ·)
  let (c', e) := waveCells reason now cells (c, {})
  let expiresAt := now.after c.policy.timings.waveSeconds
  let act : Override := ⟨.greenWave, route.describe, reason, requestedBy, affected, now⟩
  .ok (c',
    { e with
      records := e.records ++ [.action act]
      alerts := [waveAlert route.describe reason requestedBy affected.length expiresAt now] },
    ⟨affected, expiresAt⟩)

def holdAct (id : IntersectionId) (color : Color) (requestedBy : String) (now : Instant) : Override :=
  ⟨.forceChange, id, "manual change to " ++ color.label, requestedBy, [id], now⟩

def holdAlert (id : IntersectionId) (color : Color) (requestedBy : String) (now : Instant) : Alert :=
  ⟨"manual_change", id, "semaphore held " ++ color.label ++ " by " ++ requestedBy, some now⟩

def hold (c : Controller) (now : Instant) (name : String) (color : Color) (requestedBy : String) :
    Except ControlFault (Controller × Effects × HoldOutcome) := do
  let id ← c.resolve name
  let cell ← c.need id
  let (p, applied) := cell.hold c.policy id color now
  let e := Effects.ofPass p
  let e :=
    if applied then
      { e with
        records := e.records ++ [.action (holdAct id color requestedBy now)]
        alerts := [holdAlert id color requestedBy now] }
    else e
  .ok (c.setCell id p.cell, e, ⟨id, color, applied⟩)

def view (c : Controller) (now : Instant) (name : String) : Except ControlFault View := do
  let id ← c.resolve name
  let cell ← c.need id
  .ok ⟨id, cell.traffic, (cell.signal.tick c.policy.cycle id now).1, cell.snapshot, now⟩

def StateCounts.add (n : StateCounts) : TrafficKind → StateCounts
  | .normal => { n with normal := n.normal + 1 }
  | .congestion => { n with congestion := n.congestion + 1 }
  | .greenWave => { n with greenWave := n.greenWave + 1 }

def stateCounts (c : Controller) : StateCounts :=
  c.cells.foldl (fun n p => StateCounts.add n p.2.traffic.kind) {}

def canTick (c : Controller) (now : Instant) (ids : List IntersectionId) : Bool :=
  ids.all fun id => (c.cell? id).all (Cell.canTick c.policy now)

/-- Where an operation stops because the next signal cannot be brought up to date. -/
def halt? (now : Instant) : List (IntersectionId × CellAct) → Controller × Effects → Option (Controller × Effects)
  | [], _ => none
  | (id, a) :: rest, (c, e) =>
      match c.cell? id with
      | none => halt? now rest (c, e)
      | some cell =>
          if cell.canTick c.policy now then
            let p := cell.act c.policy id now a
            halt? now rest (c.setCell id p.cell, e.append (.ofPass p))
          else some (c.setCell id (cell.act c.policy id now a.stalled).cell, e)

end Controller

namespace StateCounts

def encode (n : StateCounts) : Json :=
  .obj
    [("normal", .nat n.normal), ("congestion", .nat n.congestion), ("green_wave", .nat n.greenWave)]

end StateCounts

namespace View

def members (v : View) : List Json.Member :=
  [("intersection", .str v.intersection), ("traffic_state", v.traffic.encode),
    ("semaphore", v.signal.encode), ("snapshot", v.snapshot.encode), ("as_of", v.asOf.encode)]

def encode (v : View) : Json := .obj v.members

end View

end Signalgrid
