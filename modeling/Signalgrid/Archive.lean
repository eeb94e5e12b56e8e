import Signalgrid.Store.Basic
import Signalgrid.Failover.Watch
import Signalgrid.Telemetry.Counters
import Signalgrid.Audit
import Signalgrid.Control.Controller

set_option autoImplicit false

namespace Signalgrid

inductive PrimaryRoute where
  | queued
  | skipped
  | dropped
deriving Repr, DecidableEq

def PrimaryRoute.label : PrimaryRoute → String
  | .queued => "queued"
  | .skipped => "skipped"
  | .dropped => "dropped"

structure RecordOutcome where
  replica : Except StoreFault Unit
  primary : PrimaryRoute

structure Archive where
  replica : Store
  primary : Store
  queue : List Record := []
  depth : Nat
  retries : Nat
  watch : Watch := {}
  counters : Counters := {}
  audit : Audit := {}

namespace Archive

def maxDepth : Nat := 2305843009213693951

def start? (s : Settings) (replica primary : Store) : Option Archive :=
  if s.primary.queueDepth ≤ maxDepth then
    some
      { replica := replica
        primary := primary
        depth := max 1 s.primary.queueDepth
        retries := s.timings.probeRetries }
  else none

def count (a : Archive) (f : Counters → Counters) : Archive := { a with counters := f a.counters }

def alert (a : Archive) (x : Alert) : Archive := { a with audit := a.audit.push x }

def lossAlert (r : Record) (e : StoreFault) : Alert :=
  ⟨"data_loss", r.intersection?.getD "grid",
    "replica rejected " ++ r.kind ++ " record: " ++ e.message, none⟩

def writeReplica (a : Archive) (r : Record) : Except StoreFault Unit × Archive :=
  let (answer, replica) := a.replica.insert r
  let a := { a with replica := replica }
  match answer with
  | .ok _ => (answer, a.count fun c => { c with replicaWrites := c.replicaWrites + 1 })
  | .error e =>
      (answer,
        (a.count fun c => { c with replicaFailures := c.replicaFailures + 1 }).alert (lossAlert r e))

def skip (a : Archive) : Archive := a.count fun c => { c with primarySkipped := c.primarySkipped + 1 }

def enqueue (a : Archive) (r : Record) : PrimaryRoute × Archive :=
  if !a.watch.healthy then (.skipped, a.skip)
  else if a.queue.length < a.depth then (.queued, { a with queue := a.queue ++ [r] })
  else (.dropped, a.skip)

def record (a : Archive) (r : Record) : RecordOutcome × Archive :=
  let (replica, a) := a.writeReplica r
  let (primary, a) := a.enqueue r
  (⟨replica, primary⟩, a)

def recordAll (a : Archive) (rs : List Record) : Archive := rs.foldl (fun a r => (a.record r).2) a

/-- Records queued before a failover are given up. -/
def deliver (a : Archive) (r : Record) : Archive :=
  if !a.watch.healthy then a.skip
  else
    let (answer, primary) := a.primary.insert r
    let a := { a with primary := primary }
    match answer with
    | .ok _ => a.count fun c => { c with primaryWrites := c.primaryWrites + 1 }
    | .error _ => a.count fun c => { c with primaryFailures := c.primaryFailures + 1 }

def forward (a : Archive) : Archive :=
  match a.queue with
  | [] => a
  | r :: rest => deliver { a with queue := rest } r

def drain (a : Archive) : Archive := a.queue.foldl deliver { a with queue := [] }

def shiftAlert (now : Instant) : Shift → Alert
  | .failedOver n =>
      ⟨"failover", "primary",
        "primary unreachable after " ++ toString n ++ " probes; replica is authoritative", some now⟩
  | .recovered =>
      ⟨"recovery", "primary", "primary reachable again; resuming primary writes", some now⟩

def noteProbe (ok : Bool) (c : Counters) : Counters :=
  if ok then { c with probesOk := c.probesOk + 1 } else { c with probesFailed := c.probesFailed + 1 }

def noteShift (c : Counters) : Shift → Counters
  | .failedOver _ => { c with failovers := c.failovers + 1 }
  | .recovered => { c with recoveries := c.recoveries + 1 }

def probe (a : Archive) (ok : Bool) (now : Instant) : Option Shift × Archive :=
  let (watch, shift) := a.watch.observe a.retries ok now
  let a := { a with watch := watch }.count (noteProbe ok)
  match shift with
  | none => (none, a)
  | some s => (some s, (a.count fun c => noteShift c s).alert (shiftAlert now s))

def absorb (a : Archive) (e : Effects) : Archive :=
  let a := a.count fun c =>
    { c with changes := c.changes + e.changes, transitions := c.transitions + e.transitions }
  (e.alerts.foldl alert a).recordAll e.records

def authoritative (a : Archive) : Store := if a.watch.healthy then a.primary else a.replica

/-- The primary while it is healthy, and the replica if that fails. -/
def ask {α : Type} (a : Archive) (q : Query) (pick : Reply → Except StoreFault α) :
    Except StoreFault (String × α) × Archive :=
  let askReplica (a : Archive) : Except StoreFault (String × α) × Archive :=
    let (answer, replica) := a.replica.query q
    ((answer.bind pick).map fun x => (replica.name, x), { a with replica := replica })
  if a.watch.healthy then
    let (answer, primary) := a.primary.query q
    let a := { a with primary := primary }
    match answer.bind pick with
    | .ok x => (.ok (primary.name, x), a)
    | .error _ => askReplica a
  else askReplica a

end Archive

end Signalgrid
