import Signalgrid.Sensor.Reading

set_option autoImplicit false

namespace Signalgrid

structure Observed (α : Type) where
  value : α
  observedAt : Instant
  sensor : String
deriving DecidableEq

structure Flow where
  lastCount : Nat
  seconds : Int
  perMinute : Float
  total : Nat
  observedAt : Instant
deriving DecidableEq

structure Snapshot where
  queue : Option (Observed Nat) := none
  speed : Option (Observed Float) := none
  level : Option (Observed Level) := none
  flow : Option Flow := none
deriving DecidableEq

structure Renewal where
  queue : Bool := false
  speed : Bool := false
  level : Bool := false
  flow : Bool := false
deriving Repr, DecidableEq

def Renewal.any (r : Renewal) : Bool := r.queue || r.speed || r.level || r.flow

namespace Observed

def ofReading {α : Type} (r : Reading) (value : α) : Observed α := ⟨value, r.observedAt, r.sensor⟩

/-- Only an observation made before the one held is turned away. -/
def renews {α : Type} (held : Option (Observed α)) (seenAt : Instant) : Bool :=
  match held with
  | some o => !(seenAt < o.observedAt)
  | none => true

def offer {α : Type} (held : Option (Observed α)) (candidate : Observed α) : Option (Observed α) :=
  if renews held candidate.observedAt then some candidate else held

end Observed

namespace Flow

def maxTotal : Nat := 18446744073709551615

def perMinuteOf (count : Nat) (seconds : Int) : Float :=
  if 0 < seconds then Float.ofNat count * 60.0 / Float.ofInt seconds else 0.0

def totalOf (held : Option Flow) (count : Nat) : Nat :=
  min maxTotal ((held.map Flow.total).getD 0 + count)

def renews (held : Option Flow) (seenAt : Instant) : Bool :=
  match held with
  | some f => !(seenAt < f.observedAt)
  | none => true

/-- A late count still adds to the total. -/
def offer (held : Option Flow) (r : Reading) (count : Nat) (start stop : Instant) : Option Flow :=
  let total := totalOf held count
  let seconds := (stop.since start).wholeSeconds
  if renews held r.observedAt then some ⟨count, seconds, perMinuteOf count seconds, total, r.observedAt⟩
  else held.map fun f => { f with total := total }

end Flow

namespace Snapshot

def fold (s : Snapshot) (r : Reading) : Snapshot :=
  match r.measurement with
  | .queue length speed =>
      { s with
        queue := Observed.offer s.queue (.ofReading r length)
        speed := Observed.offer s.speed (.ofReading r speed) }
  | .density speed level =>
      { s with
        speed := Observed.offer s.speed (.ofReading r speed)
        level := Observed.offer s.level (.ofReading r level) }
  | .vehicles count start stop => { s with flow := Flow.offer s.flow r count start stop }

def renewal (s : Snapshot) (r : Reading) : Renewal :=
  match r.measurement with
  | .queue .. =>
      { queue := Observed.renews s.queue r.observedAt, speed := Observed.renews s.speed r.observedAt }
  | .density .. =>
      { speed := Observed.renews s.speed r.observedAt, level := Observed.renews s.level r.observedAt }
  | .vehicles .. => { flow := Flow.renews s.flow r.observedAt }

open Json

def metrics (s : Snapshot) : Json :=
  .obj
    [("avg_speed", ofOption (fun o => ofFloat o.value) s.speed),
      ("congestion_level", ofOption (fun o => o.value.encode) s.level),
      ("queue_length", ofOption (fun o => .nat o.value) s.queue),
      ("vehicles_per_minute", ofOption (fun f => ofFloat f.perMinute) s.flow)]

end Snapshot

namespace Observed

open Decode

def encode {α : Type} (f : α → Json) (o : Observed α) : Json :=
  .obj [("value", f o.value), ("observed_at", o.observedAt.encode), ("sensor_id", .str o.sensor)]

def decode {α : Type} (d : Decoder α) : Decoder (Observed α) :=
  record "struct Observed" <|
    Fields.of Observed.mk
      |>.needs "value" d
      |>.needs "observed_at" instant
      |>.needs "sensor_id" string

end Observed

namespace Flow

open Decode

def encode (f : Flow) : Json :=
  .obj
    [("last_count", .nat f.lastCount), ("interval_secs", .int f.seconds),
      ("vehicles_per_minute", .ofFloat f.perMinute), ("total_vehicles", .nat f.total),
      ("observed_at", f.observedAt.encode)]

def decode : Decoder Flow :=
  record "struct VehicleFlow" <|
    Fields.of Flow.mk
      |>.needs "last_count" u32
      |>.needs "interval_secs" i64
      |>.needs "vehicles_per_minute" number
      |>.needs "total_vehicles" u64
      |>.needs "observed_at" instant

end Flow

namespace Snapshot

open Decode Json

def encode (s : Snapshot) : Json :=
  .obj
    [("queue_length", ofOption (Observed.encode .nat) s.queue),
      ("avg_speed", ofOption (Observed.encode ofFloat) s.speed),
      ("congestion_level", ofOption (Observed.encode Level.encode) s.level),
      ("vehicle_flow", ofOption Flow.encode s.flow)]

def decode : Decoder Snapshot :=
  record "struct IntersectionSnapshot" <|
    Fields.of Snapshot.mk
      |>.mayHave "queue_length" (Observed.decode u32)
      |>.mayHave "avg_speed" (Observed.decode number)
      |>.mayHave "congestion_level" (Observed.decode Level.decode)
      |>.mayHave "vehicle_flow" Flow.decode

end Snapshot

end Signalgrid
