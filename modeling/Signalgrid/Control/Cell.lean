import Signalgrid.Record.Basic

set_option autoImplicit false

namespace Signalgrid

structure Cell where
  snapshot : Snapshot
  traffic : Traffic
  signal : Signal
deriving DecidableEq

def Policy.cycle (p : Policy) : Span := Signal.cycleSpan p.timings.cycleSeconds

structure Pass where
  cell : Cell
  records : List Record := []
  changes : Nat := 0
  transitions : Nat := 0

namespace Pass

def note (p : Pass) (signal : Signal) : Option Transition → Pass
  | none => { p with cell := { p.cell with signal := signal } }
  | some t =>
      { p with
        cell := { p.cell with signal := signal }
        records := p.records ++ [.change t]
        changes := p.changes + 1 }

def tick (policy : Policy) (id : IntersectionId) (now : Instant) (p : Pass) : Pass :=
  let (signal, t) := p.cell.signal.tick policy.cycle id now
  p.note signal t

def command (p : Pass) (c : Command) : Pass × Bool :=
  let (signal, t) := p.cell.signal.apply c
  (p.note signal t, t.isSome)

def obey (p : Pass) : Option Command → Pass
  | some c => (p.command c).1
  | none => p

def settle (p : Pass) (traffic : Traffic) (e : Evaluation) : Pass :=
  { p with
    cell := { p.cell with traffic := traffic }
    transitions := p.transitions + if e.changed then 1 else 0 }

def resume (p : Pass) (now : Instant) : Pass :=
  { p with cell := { p.cell with signal := p.cell.signal.resume now } }

def decide (p : Pass) (id : IntersectionId) (e : Evaluation) (details : String) (now : Instant) : Pass :=
  let row : DecisionRow :=
    ⟨id, e.previous, e.current, e.action, details, p.cell.snapshot.metrics, now⟩
  { p with records := p.records ++ [.decision row] }

def evaluate (policy : Policy) (id : IntersectionId) (now : Instant) (p : Pass) : Pass × Option Action :=
  let cell := p.cell
  match cell.traffic.evaluate policy id cell.snapshot (cell.signal.extending now) now with
  | (_, none) => (p, none)
  | (traffic, some e) =>
      let p := (p.settle traffic e).obey e.command
      let p := if e.resume then p.resume now else p
      (p.decide id e e.details now, some e.action)

end Pass

namespace Cell

def start (now : Instant) : Cell := ⟨{}, .start now, .start now⟩

def canTick (policy : Policy) (now : Instant) (c : Cell) : Bool := c.signal.canTick policy.cycle now

/-- A reading that renews nothing is recorded, but not judged. -/
def ingest (policy : Policy) (now : Instant) (r : Reading) (c : Cell) : Pass × Option Action :=
  let p : Pass := { cell := { c with snapshot := c.snapshot.fold r } }
  let p := p.tick policy r.intersection now
  if (c.snapshot.renewal r).any then p.evaluate policy r.intersection now else (p, none)

def sweep (policy : Policy) (id : IntersectionId) (now : Instant) (c : Cell) : Pass :=
  let p := Pass.tick policy id now { cell := c }
  if p.cell.traffic.kind = .greenWave ∧ !p.cell.traffic.waveActive now then
    (p.evaluate policy id now).1
  else p

def wave (policy : Policy) (id : IntersectionId) (reason : String) (now : Instant) (c : Cell) : Pass :=
  let p := Pass.tick policy id now { cell := c }
  let (traffic, e) := p.cell.traffic.enterWave policy id now
  ((p.settle traffic e).obey e.command).decide id e (e.details ++ "; " ++ reason) now

def hold (policy : Policy) (id : IntersectionId) (color : Color) (now : Instant) (c : Cell) : Pass × Bool :=
  let p := Pass.tick policy id now { cell := c }
  let (p, applied) := p.command ⟨id, color, .manual, none, now⟩
  if applied then
    let kind := p.cell.traffic.kind
    let details := "manual change to " ++ color.label
    (p.decide id ⟨kind, kind, .forceChange, none, false, details⟩ details now, true)
  else (p, false)

/-- By then a timer that has run out has given way, and a reading that came before the
tick is folded. -/
def stall (now : Instant) (seen : Option Reading) (c : Cell) : Pass :=
  { cell := { c with snapshot := seen.elim c.snapshot c.snapshot.fold, signal := c.signal.lapse now } }

end Cell

inductive CellAct where
  | ingest (r : Reading)
  | sweep
  | wave (reason : String)
  | hold (color : Color)
  | stall (seen : Option Reading)

def CellAct.stalled : CellAct → CellAct
  | .ingest r => .stall (some r)
  | .stall seen => .stall seen
  | _ => .stall none

def Cell.act (policy : Policy) (id : IntersectionId) (now : Instant) (c : Cell) : CellAct → Pass
  | .ingest r => (c.ingest policy now r).1
  | .sweep => c.sweep policy id now
  | .wave reason => c.wave policy id reason now
  | .hold color => (c.hold policy id color now).1
  | .stall seen => c.stall now seen

end Signalgrid
