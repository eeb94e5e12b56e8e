import Signalgrid.Sensor.Reading

set_option autoImplicit false

namespace Signalgrid

structure Watch where
  failed : Bool := false
  failures : Nat := 0
  lastProbe : Option Instant := none
  -- When the primary last failed or recovered.
  since : Option Instant := none
deriving DecidableEq

inductive Shift where
  | failedOver (failures : Nat)
  | recovered
deriving Repr, DecidableEq

namespace Watch

def healthy (w : Watch) : Bool := !w.failed

def maxFailures : Nat := 4294967295

def succeed (w : Watch) (now : Instant) : Watch × Option Shift :=
  let w' := { w with failures := 0, lastProbe := some now }
  if w.failed then ({ w' with failed := false, since := some now }, some .recovered) else (w', none)

def fail (retries : Nat) (w : Watch) (now : Instant) : Watch × Option Shift :=
  let n := min maxFailures (w.failures + 1)
  let w' := { w with failures := n, lastProbe := some now }
  if !w.failed ∧ max 1 retries ≤ n then
    ({ w' with failed := true, since := some now }, some (.failedOver n))
  else (w', none)

def observe (retries : Nat) (w : Watch) (ok : Bool) (now : Instant) : Watch × Option Shift :=
  if ok then w.succeed now else w.fail retries now

def label (w : Watch) : String := if w.failed then "FAILED" else "HEALTHY"

def encode (w : Watch) : Json :=
  .obj
    [("state", .str w.label), ("consecutive_failures", .nat w.failures),
      ("last_probe_at", Json.ofOption Instant.encode w.lastProbe),
      ("since", Json.ofOption Instant.encode w.since)]

end Watch

end Signalgrid
