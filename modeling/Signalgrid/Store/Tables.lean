import Signalgrid.Store.Query
import Signalgrid.Json.Reader
import Signalgrid.Json.Writer

set_option autoImplicit false

namespace Signalgrid

/-- Rows stand in the order of their ids. -/
structure Row where
  -- The intersection; for acts of operators the kind of act.
  subject : String
  -- The traffic state of a decision; empty elsewhere.
  state : String
  stamp : String
  payload : String
deriving Repr, DecidableEq

structure TableStore where
  name : String
  events : List Row := []
  changes : List Row := []
  decisions : List Row := []
  actions : List Row := []

namespace TableStore

def row (subject state : String) (moment : Instant) (payload : Json) : Row :=
  ⟨subject, state, moment.toSortKey, payload.compact⟩

def insert (s : TableStore) : Record → TableStore
  | .event r => { s with events := s.events ++ [row r.intersection "" r.observedAt r.encode] }
  | .change t => { s with changes := s.changes ++ [row t.intersection "" t.moment t.encode] }
  | .decision d =>
      { s with decisions := s.decisions ++ [row d.intersection d.current.label d.recordedAt d.encode] }
  | .action a => { s with actions := s.actions ++ [row a.kind.label "" a.requestedAt a.encode] }

def load {α : Type} (d : Decoder α) (r : Row) : Except StoreFault α :=
  (d.ofText r.payload.toList).mapError fun e => .backend ("decode row: " ++ e.message)

def loadAll {α : Type} (d : Decoder α) (rows : List Row) : Except StoreFault (List α) := rows.mapM (load d)

/-- Stamps are compared as texts; rows of one stamp keep their order. -/
def inWindow (start stop : Instant) (intersection : Option IntersectionId) (r : Row) : Bool :=
  start.toSortKey ≤ r.stamp && r.stamp ≤ stop.toSortKey && intersection.all (r.subject == ·)

def byStamp (rows : List Row) : List Row := rows.mergeSort fun a b => a.stamp ≤ b.stamp

def maxLimit : Nat := 9223372036854775807

def newest (limit : Nat) (rows : List Row) : List Row := rows.reverse.take (min limit maxLimit)

def count (p : Row → Bool) (rows : List Row) : Nat := (rows.filter p).length

def totals (s : TableStore) : Totals :=
  { events := s.events.length
    congestions := count (·.state == TrafficKind.congestion.label) s.decisions
    greenWaves := count (·.subject == OverrideKind.greenWave.label) s.actions
    changes := s.changes.length }

def query (s : TableStore) : Query → Except StoreFault Reply
  | .history start stop intersection => do
      let rows := byStamp (s.decisions.filter (inWindow start stop intersection))
      .ok (.history (← loadAll DecisionRow.decode rows))
  | .events intersection limit => do
      let rows := newest limit (s.events.filter (·.subject == intersection))
      .ok (.events (← loadAll Reading.decode rows))
  | .lastChange intersection =>
      match s.changes.reverse.find? (·.subject == intersection) with
      | none => .ok (.lastChange none)
      | some r => do .ok (.lastChange (some (← load Transition.decode r)))
  | .overrides limit => do .ok (.overrides (← loadAll Override.decode (newest limit s.actions)))
  | .totals => .ok (.totals s.totals)

end TableStore

end Signalgrid
