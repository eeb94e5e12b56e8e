set_option autoImplicit false

namespace Signalgrid

abbrev IntersectionId := String

inductive SensorKind where
  | camera
  | inductiveLoop
  | gps
deriving Repr, DecidableEq

namespace SensorKind

def all : List SensorKind := [.camera, .inductiveLoop, .gps]

def label : SensorKind → String
  | .camera => "camara"
  | .inductiveLoop => "espira_inductiva"
  | .gps => "gps"

def stem : SensorKind → String
  | .camera => "CAM"
  | .inductiveLoop => "ESP"
  | .gps => "GPS"

end SensorKind

structure Sensor where
  id : String
  kind : SensorKind
  intersection : IntersectionId
deriving Repr, DecidableEq

structure Thresholds where
  normalQueueMax : Nat := 5
  normalSpeedMin : Float := 35.0
  congestionQueueMin : Nat := 10
  congestionSpeedMax : Float := 20.0
deriving Repr, DecidableEq

structure Timings where
  cycleSeconds : Nat := 15
  extensionSeconds : Nat := 10
  waveSeconds : Nat := 30
  probeSeconds : Nat := 5
  probeTimeoutMillis : Nat := 2000
  probeRetries : Nat := 3
  sweepMillis : Nat := 500
deriving Repr, DecidableEq

structure IngestSettings where
  relay : Option String := some "127.0.0.1:5560"
  backoffMillis : Nat := 1000
  topics : List String := ["camara", "espira", "gps"]
deriving Repr, DecidableEq

structure GatewaySettings where
  bind : String := "0.0.0.0:5562"
  timeoutMillis : Nat := 5000
deriving Repr, DecidableEq

inductive Backend where
  | memory
  | tables
deriving Repr, DecidableEq

def Backend.label : Backend → String
  | .memory => "memory"
  | .tables => "sqlite"

structure ReplicaSettings where
  backend : Backend := .tables
  path : String := "data/replica.db"
deriving Repr, DecidableEq

structure PrimarySettings where
  address : String := "127.0.0.1:5570"
  heartbeat : String := "127.0.0.1:5571"
  timeoutMillis : Nat := 1500
  queueDepth : Nat := 1024
deriving Repr, DecidableEq

structure HostSettings where
  bind : String := "0.0.0.0:5570"
  heartbeat : String := "0.0.0.0:5571"
  backend : Backend := .tables
  path : String := "data/primary.db"
deriving Repr, DecidableEq

structure TelemetrySettings where
  logLevel : Option String := none
  metricsBind : Option String := none
deriving Repr, DecidableEq

structure Settings where
  rows : List String := ["A", "B", "C", "D"]
  columns : List Nat := [1, 2, 3, 4]
  -- None at all stands for one of each kind at every intersection.
  sensors : List Sensor := []
  thresholds : Thresholds := {}
  timings : Timings := {}
  ingest : IngestSettings := {}
  gateway : GatewaySettings := {}
  replica : ReplicaSettings := {}
  primary : PrimarySettings := {}
  host : HostSettings := {}
  telemetry : TelemetrySettings := {}
deriving Repr, DecidableEq

namespace Settings

def intersectionName (row : String) (column : Nat) : IntersectionId := "INT-" ++ row ++ toString column

def intersections (s : Settings) : List IntersectionId :=
  s.rows.flatMap fun row => s.columns.map (intersectionName row)

/-- A name without its leading INT-, however often that is repeated. -/
def bareName : List Char → List Char
  | 'I' :: 'N' :: 'T' :: '-' :: rest => bareName rest
  | cs => cs

def defaultSensor (id : IntersectionId) (kind : SensorKind) : Sensor :=
  ⟨kind.stem ++ "-" ++ String.ofList (bareName id.toList), kind, id⟩

def sensorMap (s : Settings) : List Sensor :=
  if s.sensors.isEmpty then
    s.intersections.flatMap fun id => SensorKind.all.map (defaultSensor id)
  else s.sensors

def sweepPeriodMillis (s : Settings) : Nat := max 1 s.timings.sweepMillis
def backoffPeriodMillis (s : Settings) : Nat := max 1 s.ingest.backoffMillis

end Settings

end Signalgrid
