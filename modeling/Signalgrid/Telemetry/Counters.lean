import Signalgrid.Json.Basic

set_option autoImplicit false

namespace Signalgrid

structure Counters where
  accepted : Nat := 0
  malformed : Nat := 0
  unknown : Nat := 0
  transitions : Nat := 0
  changes : Nat := 0
  greenWaves : Nat := 0
  manualChanges : Nat := 0
  replicaWrites : Nat := 0
  replicaFailures : Nat := 0
  primaryWrites : Nat := 0
  primaryFailures : Nat := 0
  -- Records that the primary was not offered.
  primarySkipped : Nat := 0
  probesOk : Nat := 0
  probesFailed : Nat := 0
  failovers : Nat := 0
  recoveries : Nat := 0
  requests : Nat := 0
  requestFaults : Nat := 0
deriving Repr, DecidableEq

namespace Counters

def named (c : Counters) : List (String × Nat) :=
  [("events_accepted", c.accepted),
    ("events_malformed", c.malformed),
    ("unknown_intersection", c.unknown),
    ("state_transitions", c.transitions),
    ("semaphore_changes", c.changes),
    ("green_waves", c.greenWaves),
    ("manual_changes", c.manualChanges),
    ("replica_writes", c.replicaWrites),
    ("replica_write_failures", c.replicaFailures),
    ("primary_writes", c.primaryWrites),
    ("primary_write_failures", c.primaryFailures),
    ("primary_writes_skipped", c.primarySkipped),
    ("probes_ok", c.probesOk),
    ("probes_failed", c.probesFailed),
    ("failovers", c.failovers),
    ("recoveries", c.recoveries),
    ("gateway_requests", c.requests),
    ("gateway_errors", c.requestFaults)]

def encode (c : Counters) : Json := .obj (c.named.map fun (name, n) => (name, .nat n))

def line (name : String) (n : Nat) : String := name ++ " " ++ toString n ++ "\n"

def render (c : Counters) : String :=
  String.join (c.named.map fun (name, n) => line ("crossway_" ++ name ++ "_total") n)

end Counters

end Signalgrid
