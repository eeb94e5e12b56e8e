import Signalgrid.Settings.Basic

set_option autoImplicit false

namespace Signalgrid

inductive SettingsFault where
  | noIntersections
  | blankRow
  | repeatedRow (row : String)
  | repeatedColumn (column : Nat)
  | strayedSensor (sensor : String) (intersection : IntersectionId)
  | repeatedSensor (sensor : String)
  | notPositive (field : String)
  | tooLong (field : String) (limit value : Nat)
  | queueBoundsCross
  | speedBoundsCross
deriving Repr, DecidableEq

namespace SettingsFault

def message : SettingsFault → String
  | .noIntersections => "grid must have at least one row and one column"
  | .blankRow => "grid row labels must be non-empty"
  | .repeatedRow row => "duplicate grid row " ++ row
  | .repeatedColumn column => "duplicate grid column " ++ toString column
  | .strayedSensor sensor id => "sensor " ++ sensor ++ " mapped to unconfigured intersection " ++ id
  | .repeatedSensor sensor => "duplicate sensor id " ++ sensor
  | .notPositive field => field ++ " must be > 0"
  | .tooLong field limit value =>
      field ++ " must be <= " ++ toString limit ++ " (got " ++ toString value ++ ")"
  | .queueBoundsCross => "rules.normal_q_max must not exceed rules.congestion_q_min"
  | .speedBoundsCross => "rules.normal_vp_min must not be below rules.congestion_vp_max"

end SettingsFault

namespace Settings

def maxTimerSeconds : Nat := 86400
def maxTimerMillis : Nat := 86400000

abbrev Check := Except SettingsFault Unit

def checkRows : List String → List String → Check
  | _, [] => .ok ()
  | seen, row :: rest =>
      if row.isEmpty then .error .blankRow
      else if row ∈ seen then .error (.repeatedRow row)
      else checkRows (row :: seen) rest

def checkColumns : List Nat → List Nat → Check
  | _, [] => .ok ()
  | seen, column :: rest =>
      if column ∈ seen then .error (.repeatedColumn column) else checkColumns (column :: seen) rest

def checkSensors (known : List IntersectionId) : List String → List Sensor → Check
  | _, [] => .ok ()
  | seen, sensor :: rest =>
      if sensor.intersection ∉ known then .error (.strayedSensor sensor.id sensor.intersection)
      else if sensor.id ∈ seen then .error (.repeatedSensor sensor.id)
      else checkSensors known (sensor.id :: seen) rest

def checkPositive (field : String) (value : Nat) : Check :=
  if value = 0 then .error (.notPositive field) else .ok ()

def checkRange (field : String) (limit value : Nat) : Check := do
  checkPositive field value
  if limit < value then .error (.tooLong field limit value) else .ok ()

def checkTimings (t : Timings) : Check := do
  checkRange "timings.normal_cycle_sec" maxTimerSeconds t.cycleSeconds
  checkRange "timings.congestion_extension_sec" maxTimerSeconds t.extensionSeconds
  checkRange "timings.green_wave_duration_sec" maxTimerSeconds t.waveSeconds
  checkRange "timings.health_check_interval_sec" maxTimerSeconds t.probeSeconds
  checkRange "timings.health_check_timeout_ms" maxTimerMillis t.probeTimeoutMillis
  checkRange "timings.sweep_interval_ms" maxTimerMillis t.sweepMillis
  checkPositive "timings.health_check_max_retries" t.probeRetries

def checkPrimary (p : PrimarySettings) : Check := do
  checkPositive "storage.primary.queue_depth" p.queueDepth
  checkRange "storage.primary.request_timeout_ms" maxTimerMillis p.timeoutMillis

def checkThresholds (t : Thresholds) : Check :=
  if t.congestionQueueMin < t.normalQueueMax then .error .queueBoundsCross
  else if t.normalSpeedMin < t.congestionSpeedMax then .error .speedBoundsCross
  else .ok ()

def validate (s : Settings) : Check := do
  if s.rows.isEmpty || s.columns.isEmpty then throw .noIntersections
  checkRows [] s.rows
  checkColumns [] s.columns
  checkSensors s.intersections [] s.sensors
  checkTimings s.timings
  checkPrimary s.primary
  checkThresholds s.thresholds

end Settings

end Signalgrid
