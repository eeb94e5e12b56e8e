import Signalgrid.Sensor.Reading

set_option autoImplicit false

namespace Signalgrid

structure Alert where
  kind : String
  subject : String
  message : String
  -- Alerts of data loss are not timed by the clock of the control loop.
  moment : Option Instant
deriving DecidableEq

structure Audit where
  capacity : Nat := 1024
  alerts : List Alert := []
deriving DecidableEq

namespace Audit

def ofCapacity (n : Nat) : Audit := { capacity := max 1 n }

def push (a : Audit) (alert : Alert) : Audit :=
  { a with
    alerts := (if a.alerts.length = a.capacity then a.alerts.drop 1 else a.alerts) ++ [alert] }

def size (a : Audit) : Nat := a.alerts.length

def count (a : Audit) (kind : String) : Nat := (a.alerts.filter (·.kind == kind)).length

end Audit

def Alert.encode (a : Alert) : Json :=
  .obj
    [("event_type", .str a.kind), ("subject", .str a.subject), ("message", .str a.message),
      ("at", Json.ofOption Instant.encode a.moment)]

end Signalgrid
