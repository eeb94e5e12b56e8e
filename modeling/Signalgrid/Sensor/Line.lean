import Signalgrid.Sensor.Reading
import Signalgrid.Grid
import Signalgrid.Text.Blank
import Signalgrid.Text.Utf8

set_option autoImplicit false

namespace Signalgrid

inductive LineFault where
  | badEncoding (fault : Text.BadUtf8)
  | noPayload
  | notJson
  | notAnObject
  | unknownKind (label : Option String)
  | schema (kind : SensorKind) (fault : DecodeFault)
  | badCount (field : String) (value : Int)
  | badSpeed (field : String) (value : Float)
  | badTime (field raw : String) (fault : TimeFault)
  | openInterval
  | reversedInterval
  | noIntersection (sensor : String)
  | unknownIntersection (name : String)
deriving DecidableEq

namespace LineFault

def invalid (field reason : String) : String := "field " ++ field ++ " has invalid value: " ++ reason

def message : LineFault → String
  | .badEncoding fault => "line is not valid UTF-8: " ++ fault.message
  | .noPayload => "payload is not valid JSON: empty payload"
  | .notJson => "payload is not valid JSON"
  | .notAnObject => "payload is not a JSON object"
  | .unknownKind label =>
      "cannot determine sensor kind (tipo_sensor=" ++ Text.quotedOption label ++ ")"
  | .schema kind fault => "payload does not match " ++ kind.label ++ " schema: " ++ fault.message
  | .badCount field value => invalid field (toString value ++ " is not a non-negative count")
  | .badSpeed field value => invalid field (Decimal.prose value ++ " is not a valid speed")
  | .badTime field raw fault => invalid field (Text.quoted raw ++ ": " ++ fault.message)
  | .openInterval => invalid "timestamp_fin" "missing and no intervalo_segundos to derive it"
  | .reversedInterval => invalid "timestamp_fin" "interval ends before it starts"
  | .noIntersection sensor => "missing intersection for sensor " ++ sensor
  | .unknownIntersection name => "unknown intersection " ++ name

def ofGrid : GridFault → LineFault
  | .unknownIntersection name => .unknownIntersection name
  | fault => .unknownIntersection fault.message

end LineFault

/-- Time arithmetic that leaves the calendar is no fault of the line, and is caught nowhere. -/
inductive Intake (α : Type) where
  | accepted (a : α)
  | rejected (fault : LineFault)
  | overflow
deriving DecidableEq

namespace Intake

def bind {α β : Type} (i : Intake α) (f : α → Intake β) : Intake β :=
  match i with
  | .accepted a => f a
  | .rejected fault => .rejected fault
  | .overflow => .overflow

instance : Monad Intake where
  pure := .accepted
  bind := bind

def ofExcept {α ε : Type} (wrap : ε → LineFault) : Except ε α → Intake α
  | .ok a => .accepted a
  | .error e => .rejected (wrap e)

end Intake

namespace SensorLine

def kindOfLabel (label : String) : Option SensorKind :=
  if label = "camara" then some .camera
  else if label = "espira" ∨ label = "espira_inductiva" then some .inductiveLoop
  else if label = "gps" then some .gps
  else none

def textAt (payload : Json) (key : String) : Option String :=
  match payload.get? key with
  | some (.str s) => some s
  | _ => none

def kindOf (g : Grid) (topic : Option String) (payload : Json) : Option SensorKind :=
  match textAt payload "tipo_sensor" with
  | some label => kindOfLabel label
  | none =>
      match topic.bind kindOfLabel with
      | some kind => some kind
      | none => ((textAt payload "sensor_id").bind g.sensor?).map Sensor.kind

structure CameraPayload where
  sensor : String
  intersection : String
  volume : Int
  speed : Float
  timestamp : String

structure LoopPayload where
  sensor : String
  intersection : String
  count : Int
  seconds : Option Int
  start : String
  stop : Option String

structure GpsPayload where
  sensor : String
  intersection : Option String
  level : Option Level
  speed : Float
  timestamp : String

open Decode

def decodeCamera : Decoder CameraPayload :=
  record "struct CameraPayload" <|
    Fields.of CameraPayload.mk
      |>.needs "sensor_id" string
      |>.needs "interseccion" string
      |>.needs "volumen" i64
      |>.needs "velocidad_promedio" number
      |>.needs "timestamp" string

def decodeLoop : Decoder LoopPayload :=
  record "struct InductivePayload" <|
    Fields.of LoopPayload.mk
      |>.needs "sensor_id" string
      |>.needs "interseccion" string
      |>.needs "vehiculos_contados" i64
      |>.orNone "intervalo_segundos" i64
      |>.needs "timestamp_inicio" string
      |>.orNone "timestamp_fin" string

def decodeGps : Decoder GpsPayload :=
  record "struct GpsPayload" <|
    Fields.of GpsPayload.mk
      |>.needs "sensor_id" string
      |>.orNone "interseccion" string
      |>.orNone "nivel_congestion" Level.decode
      |>.needs "velocidad_promedio" number
      |>.needs "timestamp" string

def count (field : String) (value : Int) : Intake Nat :=
  if 0 ≤ value ∧ value < 4294967296 then .accepted value.toNat else .rejected (.badCount field value)

def speed (field : String) (value : Float) : Intake Float :=
  if value.isFinite && 0.0 ≤ value then .accepted value else .rejected (.badSpeed field value)

def time (field raw : String) : Intake Instant :=
  .ofExcept (.badTime field raw) (Instant.ofStrict raw)

def intersection (g : Grid) (name : String) : Intake IntersectionId :=
  .ofExcept .ofGrid (g.resolve name)

def derivedEnd (start : Instant) (seconds : Int) : Intake Instant :=
  match (Span.ofSeconds? seconds).bind start.add? with
  | some t => .accepted t
  | none => .overflow

def camera (g : Grid) (p : CameraPayload) : Intake Reading := do
  let id ← intersection g p.intersection
  let length ← count "volumen" p.volume
  let v ← speed "velocidad_promedio" p.speed
  let t ← time "timestamp" p.timestamp
  pure ⟨id, p.sensor, t, .queue length v⟩

def loopEnd (p : LoopPayload) (start : Instant) : Intake Instant :=
  match p.stop.filter (!·.isEmpty) with
  | some raw => time "timestamp_fin" raw
  | none =>
      match p.seconds with
      | some seconds => derivedEnd start seconds
      | none => .rejected .openInterval

def loop (g : Grid) (p : LoopPayload) : Intake Reading := do
  let id ← intersection g p.intersection
  let n ← count "vehiculos_contados" p.count
  let start ← time "timestamp_inicio" p.start
  let stop ← loopEnd p start
  if stop < start then .rejected .reversedInterval
  else pure ⟨id, p.sensor, stop, .vehicles n start stop⟩

def gpsPlace (g : Grid) (p : GpsPayload) : Intake IntersectionId :=
  match p.intersection with
  | some name => intersection g name
  | none =>
      match g.sensor? p.sensor with
      | some s => .accepted s.intersection
      | none => .rejected (.noIntersection p.sensor)

def gps (g : Grid) (p : GpsPayload) : Intake Reading := do
  let id ← gpsPlace g p
  let v ← speed "velocidad_promedio" p.speed
  let t ← time "timestamp" p.timestamp
  pure ⟨id, p.sensor, t, .density v (p.level.getD (.ofSpeed v))⟩

def ofKind (g : Grid) (payload : Json) (kind : SensorKind) : Intake Reading :=
  match kind with
  | .camera => (Intake.ofExcept (.schema kind) (decodeCamera .tree payload)).bind (camera g)
  | .inductiveLoop => (Intake.ofExcept (.schema kind) (decodeLoop .tree payload)).bind (loop g)
  | .gps => (Intake.ofExcept (.schema kind) (decodeGps .tree payload)).bind (gps g)

def ofPayload (g : Grid) (topic : Option String) (payload : Json) : Intake Reading :=
  match payload.canonical with
  | .obj members =>
      match kindOf g topic (.obj members) with
      | some kind => ofKind g (.obj members) kind
      | none => .rejected (.unknownKind (textAt (.obj members) "tipo_sensor"))
  | _ => .rejected .notAnObject

/-- A bare object has no topic; a line of one word has no payload. -/
def split (line : List Char) : Option (Option String × List Char) :=
  match Text.trim line with
  | '\x7b' :: rest => some (none, '\x7b' :: rest)
  | cs => (Text.splitOnce ' ' cs).map fun (topic, body) => (some (String.ofList topic), Text.trim body)

def parse (g : Grid) (line : List Char) : Intake Reading :=
  match split line with
  | none => .rejected .noPayload
  | some (topic, body) =>
      match Json.read body with
      | none => .rejected .notJson
      | some payload => ofPayload g topic payload

def topic (line : List Char) : Option String :=
  match Text.trimStart line with
  | '\x7b' :: _ => none
  | cs => (Text.splitOnce ' ' cs).map fun (topic, _) => String.ofList topic

end SensorLine

end Signalgrid
