import Signalgrid.Settings.Basic
import Signalgrid.Json.Decode

set_option autoImplicit false

namespace Signalgrid

inductive Level where
  | high
  | normal
  | low
deriving Repr, DecidableEq

namespace Level

def label : Level → String
  | .high => "ALTA"
  | .normal => "NORMAL"
  | .low => "BAJA"

def ofSpeed (speed : Float) : Level :=
  if speed < 10.0 then .high else if 40.0 < speed then .low else .normal

def encode (l : Level) : Json := .str l.label

def decode : Decoder Level := Decode.choice [("ALTA", .high), ("NORMAL", .normal), ("BAJA", .low)]

end Level

inductive Measurement where
  | queue (length : Nat) (speed : Float)
  | vehicles (count : Nat) (start stop : Instant)
  | density (speed : Float) (level : Level)
deriving DecidableEq

namespace Measurement

def sensorKind : Measurement → SensorKind
  | .queue .. => .camera
  | .vehicles .. => .inductiveLoop
  | .density .. => .gps

end Measurement

structure Reading where
  intersection : IntersectionId
  sensor : String
  observedAt : Instant
  measurement : Measurement
deriving DecidableEq

def Instant.encode (t : Instant) : Json := .str t.toData

namespace Measurement

open Decode

def encode : Measurement → Json
  | .queue length speed =>
      .obj [("kind", .str "queue"), ("queue_length", .nat length), ("avg_speed", .ofFloat speed)]
  | .vehicles count start stop =>
      .obj [("kind", .str "vehicle_count"), ("count", .nat count), ("interval_start", start.encode),
        ("interval_end", stop.encode)]
  | .density speed level =>
      .obj [("kind", .str "density"), ("avg_speed", .ofFloat speed), ("congestion_level", level.encode)]

def decode : Decoder Measurement :=
  tagged "kind" "Measurement"
    [("queue",
      record "struct QueueReading"
        (Fields.of Measurement.queue |>.needs "queue_length" u32 |>.needs "avg_speed" number)),
     ("vehicle_count",
      record "struct VehicleCountReading"
        (Fields.of Measurement.vehicles |>.needs "count" u32 |>.needs "interval_start" instant
          |>.needs "interval_end" instant)),
     ("density",
      record "struct DensityReading"
        (Fields.of Measurement.density |>.needs "avg_speed" number
          |>.needs "congestion_level" Level.decode))]

end Measurement

namespace Reading

open Decode

def members (r : Reading) : List Json.Member :=
  [("intersection", .str r.intersection), ("sensor_id", .str r.sensor),
    ("observed_at", r.observedAt.encode), ("measurement", r.measurement.encode)]

def encode (r : Reading) : Json := .obj r.members

def decode : Decoder Reading :=
  record "struct SensorReading" <|
    Fields.of Reading.mk
      |>.needs "intersection" string
      |>.needs "sensor_id" string
      |>.needs "observed_at" instant
      |>.needs "measurement" Measurement.decode

end Reading

end Signalgrid
