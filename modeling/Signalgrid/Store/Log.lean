import Signalgrid.Store.Query

set_option autoImplicit false

namespace Signalgrid

structure LogStore where
  name : String
  records : List Record := []
  totals : Totals := {}
  available : Bool := true

namespace LogStore

def offline (s : LogStore) : StoreFault := .unavailable (s.name ++ " is offline")

def insert (s : LogStore) (r : Record) : Except StoreFault LogStore :=
  if s.available then .ok { s with records := s.records ++ [r], totals := s.totals.add r }
  else .error s.offline

def within (start stop : Instant) (intersection : Option IntersectionId) (d : DecisionRow) : Bool :=
  start ≤ d.recordedAt && d.recordedAt ≤ stop && intersection.all (d.intersection == ·)

def answer (s : LogStore) : Query → Reply
  | .history start stop intersection =>
      .history ((s.records.filterMap Record.decision?).filter (within start stop intersection))
  | .events intersection limit =>
      .events (((s.records.reverse.filterMap Record.event?).filter
        (·.intersection == intersection)).take limit)
  | .lastChange intersection =>
      .lastChange ((s.records.reverse.filterMap Record.change?).find? (·.intersection == intersection))
  | .overrides limit => .overrides ((s.records.reverse.filterMap Record.action?).take limit)
  | .totals => .totals s.totals

def query (s : LogStore) (q : Query) : Except StoreFault Reply :=
  if s.available then .ok (s.answer q) else .error s.offline

end LogStore

end Signalgrid
