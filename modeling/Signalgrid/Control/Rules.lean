import Signalgrid.Sensor.Snapshot

set_option autoImplicit false

namespace Signalgrid

inductive Verdict where
  | congestion
  | normal
  | inconclusive
deriving Repr, DecidableEq

def Verdict.label : Verdict → String
  | .congestion => "congestion"
  | .normal => "normal"
  | .inconclusive => "inconclusive"

namespace Thresholds

def congested (t : Thresholds) (s : Snapshot) : Bool :=
  (s.queue.any fun o => t.congestionQueueMin ≤ o.value) ||
    (s.speed.any fun o => o.value ≤ t.congestionSpeedMax) ||
    (s.level.any fun o => o.value = .high)

def flowing (t : Thresholds) (s : Snapshot) : Bool :=
  (s.queue.any fun o => o.value < t.normalQueueMax) &&
    (s.speed.any fun o => t.normalSpeedMin < o.value) &&
    (s.level.any fun o => o.value ≠ .high)

def judge (t : Thresholds) (s : Snapshot) : Verdict :=
  if t.congested s then .congestion else if t.flowing s then .normal else .inconclusive

end Thresholds

end Signalgrid
