import Signalgrid.Proofs.Json.Canonical
import Signalgrid.Proofs.Json.Decode
import Signalgrid.Proofs.Sensor.Places

set_option autoImplicit false

namespace Signalgrid

theorem Span.ofSeconds?_eq_some {n : Int} {d : Span} (long : Span.ofSeconds? n = some d) :
    (⟨n * 1000000000⟩ : Span) = d := by
  unfold ofSeconds? ofNanos? at long
  split at long
  · exact Option.some.inj long
  · cases long

theorem Level.decode_ok {j : Json} {l : Level} (read : Level.decode .tree j = .ok l) :
    j = .str l.label ∨ j = .obj [(l.label, .null)] := by
  obtain ⟨name, named, stands⟩ := Decode.choice_ok read
  obtain ⟨front, back, split, _⟩ := List.lookup_eq_some_iff.mp named
  have listed : (name, l) ∈ [("ALTA", high), ("NORMAL", normal), ("BAJA", low)] := by simp [split]
  simp only [List.mem_cons, Prod.mk.injEq, List.not_mem_nil, or_false] at listed
  rcases listed with ⟨rfl, rfl⟩ | ⟨rfl, rfl⟩ | ⟨rfl, rfl⟩ <;> exact stands

namespace SensorLine

open Decode Intake

structure KindFrom (g : Grid) (topic : Option String) (value : Json) (kind : SensorKind) : Prop where
  named : ∀ label, textAt value "tipo_sensor" = some label → kindOfLabel label = some kind
  topical : textAt value "tipo_sensor" = none → ∀ other, topic.bind kindOfLabel = some other → other = kind
  mapped : textAt value "tipo_sensor" = none → topic.bind kindOfLabel = none →
    ∃ id sensor, textAt value "sensor_id" = some id ∧ g.sensor? id = some sensor ∧ sensor.kind = kind

def PlaceFrom (g : Grid) (value : Json) (kind : SensorKind) (id : IntersectionId) : Prop :=
  match textAt value "interseccion" with
  | some name => id = name
  | none => kind = .gps ∧ ∃ name sensor, textAt value "sensor_id" = some name ∧
      g.sensor? name = some sensor ∧ id = sensor.intersection

def CountFrom (value : Json) (key : String) (n : Nat) : Prop :=
  value.get? key = some (.int n) ∧ n < 4294967296

def SpeedFrom (value : Json) (v : Float) : Prop :=
  (∃ j, value.get? "velocidad_promedio" = some j ∧ number .tree j = .ok v) ∧
    v.isFinite = true ∧ 0.0 ≤ v

def TimeFrom (value : Json) (key : String) (t : Instant) : Prop :=
  ∃ raw, textAt value key = some raw ∧ Instant.ofStrict raw = .ok t

def EndFrom (value : Json) (start stop : Instant) : Prop :=
  match (textAt value "timestamp_fin").filter (!·.isEmpty) with
  | some raw => Instant.ofStrict raw = .ok stop
  | none => ∃ seconds : Int, value.get? "intervalo_segundos" = some (.int seconds) ∧
      start.add? ⟨seconds * 1000000000⟩ = some stop

def LevelFrom (value : Json) (v : Float) (level : Level) : Prop :=
  (∃ j, value.get? "nivel_congestion" = some j ∧
      (j = .str level.label ∨ j = .obj [(level.label, .null)])) ∨
    (value.get? "nivel_congestion" = none ∨ value.get? "nivel_congestion" = some .null) ∧
      level = .ofSpeed v

def MeasuredFrom (value : Json) (observed : Instant) : Measurement → Prop
  | .queue length v =>
      CountFrom value "volumen" length ∧ SpeedFrom value v ∧ TimeFrom value "timestamp" observed
  | .vehicles n start stop =>
      CountFrom value "vehiculos_contados" n ∧ TimeFrom value "timestamp_inicio" start ∧
        EndFrom value start stop ∧ start ≤ stop ∧ stop = observed
  | .density v level => SpeedFrom value v ∧ LevelFrom value v level ∧ TimeFrom value "timestamp" observed

structure Faithful (g : Grid) (topic : Option String) (value : Json) (r : Reading) : Prop where
  sensor : textAt value "sensor_id" = some r.sensor
  kind : KindFrom g topic value r.measurement.sensorKind
  place : PlaceFrom g value r.measurement.sensorKind r.intersection
  measured : MeasuredFrom value r.observedAt r.measurement

theorem kindOf_from {g : Grid} {topic : Option String} {value : Json} {kind : SensorKind}
    (found : kindOf g topic value = some kind) : KindFrom g topic value kind := by
  unfold kindOf at found
  cases named : textAt value "tipo_sensor" with
  | some label =>
    rw [named] at found
    constructor <;> simp [named, found]
  | none =>
    rw [named] at found
    cases topical : topic.bind kindOfLabel with
    | some other =>
      simp only [topical, Option.some.injEq] at found
      constructor <;> simp [named, topical, found]
    | none =>
      simp only [topical, Option.map_eq_some_iff, Option.bind_eq_some_iff] at found
      obtain ⟨sensor, ⟨id, told, known⟩, same⟩ := found
      exact ⟨by simp [named], by simp [topical], fun _ _ => ⟨id, sensor, told, known, same⟩⟩

section

variable {ms : List Json.Member}

theorem textAt_obj (once : (ms.map Prod.fst).Nodup) {key text : String}
    (found : ms.lookup key = some (.str text)) : textAt (.obj ms) key = some text := by
  rw [textAt, Json.get?_obj once, found]

theorem textAt_filled (once : (ms.map Prod.fst).Nodup) {key : String} {b : Option String}
    (filled : Filled string .tree (ms.lookup key) b) : textAt (.obj ms) key = b := by
  rw [textAt, Json.get?_obj once]
  rcases filled.cases with ⟨rfl, missing | empty⟩ | ⟨j, v, _, found, read, rfl⟩
  · rw [missing]
  · rw [empty]
  · rw [found, string_ok.mp read]

theorem decodeCamera_ok {p : CameraPayload} (decoded : decodeCamera .tree (.obj ms) = .ok p) :
    ms.lookup "sensor_id" = some (.str p.sensor) ∧ ms.lookup "interseccion" = some (.str p.intersection) ∧
      ms.lookup "volumen" = some (.int p.volume) ∧
      (∃ j, ms.lookup "velocidad_promedio" = some j ∧ number .tree j = .ok p.speed) ∧
      ms.lookup "timestamp" = some (.str p.timestamp) := by
  obtain ⟨_, _, front₄, rfl, _, timestamp, read₅⟩ := Fields.needs_ok (record_ok decoded)
  obtain ⟨_, _, front₃, rfl, _, speed, read₄⟩ := Fields.needs_ok front₄
  obtain ⟨_, _, front₂, rfl, _, volume, read₃⟩ := Fields.needs_ok front₃
  obtain ⟨_, _, front₁, rfl, _, intersection, read₂⟩ := Fields.needs_ok front₂
  obtain ⟨_, _, front₀, rfl, _, sensor, read₁⟩ := Fields.needs_ok front₁
  cases front₀
  rw [string_ok] at read₁ read₂ read₅
  obtain rfl := i64_ok read₃
  subst read₁ read₂ read₅
  exact ⟨sensor, intersection, volume, ⟨_, speed, read₄⟩, timestamp⟩

theorem decodeLoop_ok {p : LoopPayload} (decoded : decodeLoop .tree (.obj ms) = .ok p) :
    ms.lookup "sensor_id" = some (.str p.sensor) ∧ ms.lookup "interseccion" = some (.str p.intersection) ∧
      ms.lookup "vehiculos_contados" = some (.int p.count) ∧
      Filled i64 .tree (ms.lookup "intervalo_segundos") p.seconds ∧
      ms.lookup "timestamp_inicio" = some (.str p.start) ∧
      Filled string .tree (ms.lookup "timestamp_fin") p.stop := by
  obtain ⟨_, _, front₅, rfl, stop⟩ := Fields.orNone_ok (record_ok decoded)
  obtain ⟨_, _, front₄, rfl, _, start, read₅⟩ := Fields.needs_ok front₅
  obtain ⟨_, _, front₃, rfl, seconds⟩ := Fields.orNone_ok front₄
  obtain ⟨_, _, front₂, rfl, _, count, read₃⟩ := Fields.needs_ok front₃
  obtain ⟨_, _, front₁, rfl, _, intersection, read₂⟩ := Fields.needs_ok front₂
  obtain ⟨_, _, front₀, rfl, _, sensor, read₁⟩ := Fields.needs_ok front₁
  cases front₀
  rw [string_ok] at read₁ read₂ read₅
  obtain rfl := i64_ok read₃
  subst read₁ read₂ read₅
  exact ⟨sensor, intersection, count, seconds, start, stop⟩

theorem decodeGps_ok {p : GpsPayload} (decoded : decodeGps .tree (.obj ms) = .ok p) :
    ms.lookup "sensor_id" = some (.str p.sensor) ∧
      Filled string .tree (ms.lookup "interseccion") p.intersection ∧
      Filled Level.decode .tree (ms.lookup "nivel_congestion") p.level ∧
      (∃ j, ms.lookup "velocidad_promedio" = some j ∧ number .tree j = .ok p.speed) ∧
      ms.lookup "timestamp" = some (.str p.timestamp) := by
  obtain ⟨_, _, front₄, rfl, _, timestamp, read₅⟩ := Fields.needs_ok (record_ok decoded)
  obtain ⟨_, _, front₃, rfl, _, speed, read₄⟩ := Fields.needs_ok front₄
  obtain ⟨_, _, front₂, rfl, level⟩ := Fields.orNone_ok front₃
  obtain ⟨_, _, front₁, rfl, intersection⟩ := Fields.orNone_ok front₂
  obtain ⟨_, _, front₀, rfl, _, sensor, read₁⟩ := Fields.needs_ok front₁
  cases front₀
  rw [string_ok] at read₁ read₅
  subst read₁ read₅
  exact ⟨sensor, intersection, level, ⟨_, speed, read₄⟩, timestamp⟩

variable (once : (ms.map Prod.fst).Nodup)

include once

theorem EndFrom.of_loop {p : LoopPayload} {start stop : Instant} (ended : loopEnd p start = .accepted stop)
    (seconds : Filled i64 .tree (ms.lookup "intervalo_segundos") p.seconds)
    (last : Filled string .tree (ms.lookup "timestamp_fin") p.stop) : EndFrom (.obj ms) start stop := by
  rw [EndFrom, textAt_filled once last]
  unfold loopEnd at ended
  cases told : p.stop.filter (!·.isEmpty) with
  | some raw =>
    rw [told] at ended
    exact time_accepted.mp ended
  | none =>
    rw [told] at ended
    rcases seconds.cases with ⟨none, _⟩ | ⟨j, n, _, found, read, some⟩
    · simp [none] at ended
    · simp only [some, derivedEnd] at ended
      split at ended
      next derived =>
        cases ended
        obtain ⟨d, long, added⟩ := Option.bind_eq_some_iff.mp derived
        rw [← Span.ofSeconds?_eq_some long] at added
        exact ⟨n, by rw [Json.get?_obj once, found, i64_ok read], added⟩
      next => cases ended

theorem LevelFrom.of_gps {level : Option Level} {v : Float}
    (filled : Filled Level.decode .tree (ms.lookup "nivel_congestion") level) :
    LevelFrom (.obj ms) v (level.getD (.ofSpeed v)) := by
  rw [LevelFrom, Json.get?_obj once]
  rcases filled.cases with ⟨rfl, missing | empty⟩ | ⟨j, l, there, found, read, rfl⟩
  · exact .inr ⟨.inl missing, rfl⟩
  · exact .inr ⟨.inr empty, rfl⟩
  · exact .inl ⟨j, found, Level.decode_ok read⟩

theorem CountFrom.of_int {key : String} {n : Int} (found : ms.lookup key = some (.int n))
    (fits : 0 ≤ n ∧ n < 4294967296) : CountFrom (.obj ms) key n.toNat := by
  refine ⟨?_, by omega⟩
  rw [Json.get?_obj once, found, Int.toNat_of_nonneg fits.1]

theorem SpeedFrom.of_number {v : Float}
    (told : ∃ j, ms.lookup "velocidad_promedio" = some j ∧ number .tree j = .ok v)
    (fine : v.isFinite = true ∧ 0.0 ≤ v) : SpeedFrom (.obj ms) v := by
  refine ⟨?_, fine⟩
  rw [Json.get?_obj once]
  exact told

theorem TimeFrom.of_text {key raw : String} {t : Instant} (found : ms.lookup key = some (.str raw))
    (dated : Instant.ofStrict raw = .ok t) : TimeFrom (.obj ms) key t :=
  ⟨raw, textAt_obj once found, dated⟩

theorem PlaceFrom.of_text {g : Grid} {kind : SensorKind} {name : String}
    (found : ms.lookup "interseccion" = some (.str name)) : PlaceFrom g (.obj ms) kind name := by
  rw [PlaceFrom, textAt_obj once found]

theorem PlaceFrom.of_gps {g : Grid} {p : GpsPayload} {id : IntersectionId}
    (place : gpsPlace g p = .accepted id) (sensor : ms.lookup "sensor_id" = some (.str p.sensor))
    (filled : Filled string .tree (ms.lookup "interseccion") p.intersection) :
    PlaceFrom g (.obj ms) .gps id := by
  rw [PlaceFrom, textAt_filled once filled]
  unfold gpsPlace at place
  cases told : p.intersection with
  | some name =>
    rw [told] at place
    exact (intersection_accepted.mp place).2.symm
  | none =>
    rw [told] at place
    simp only at place
    split at place
    next known =>
      cases place
      exact ⟨rfl, p.sensor, _, textAt_obj once sensor, known, rfl⟩
    next => cases place

variable {g : Grid} {r : Reading}

theorem ofKind_says {kind : SensorKind} (read : ofKind g (.obj ms) kind = .accepted r) :
    r.measurement.sensorKind = kind ∧ textAt (.obj ms) "sensor_id" = some r.sensor ∧
      PlaceFrom g (.obj ms) kind r.intersection ∧
      MeasuredFrom (.obj ms) r.observedAt r.measurement := by
  cases kind with
  | camera =>
    obtain ⟨p, decoded, read⟩ := bind_accepted.mp read
    obtain ⟨sensor, place, volume, speed, timestamp⟩ := decodeCamera_ok (ofExcept_accepted.mp decoded)
    obtain ⟨_, fits, fine, t, dated, rfl⟩ := camera_accepted read
    exact ⟨rfl, textAt_obj once sensor, .of_text once place, .of_int once volume fits,
      .of_number once speed fine, .of_text once timestamp dated⟩
  | inductiveLoop =>
    obtain ⟨p, decoded, read⟩ := bind_accepted.mp read
    obtain ⟨sensor, place, count, seconds, started, last⟩ := decodeLoop_ok (ofExcept_accepted.mp decoded)
    obtain ⟨_, fits, start, stop, dated, ended, forward, rfl⟩ := loop_accepted read
    exact ⟨rfl, textAt_obj once sensor, .of_text once place, .of_int once count fits,
      .of_text once started dated, .of_loop once ended seconds last, forward, rfl⟩
  | gps =>
    obtain ⟨p, decoded, read⟩ := bind_accepted.mp read
    obtain ⟨sensor, place, level, speed, timestamp⟩ := decodeGps_ok (ofExcept_accepted.mp decoded)
    obtain ⟨fine, id, t, placed, dated, rfl⟩ := gps_accepted read
    exact ⟨rfl, textAt_obj once sensor, .of_gps once placed sensor place, .of_number once speed fine,
      .of_gps once level, .of_text once timestamp dated⟩

end

theorem reading_faithful {s : Settings} (valid : s.validate.isOk = true) {topic : Option String}
    {payload : Json} {r : Reading} (read : ofPayload (.ofSettings s) topic payload = .accepted r) :
    r.intersection ∈ s.intersections ∧ Faithful (.ofSettings s) topic payload.canonical r := by
  refine ⟨ofPayload_placed (g := .ofSettings s) (Settings.sensorMap_placed valid) read, ?_⟩
  unfold ofPayload at read
  have distinct := Json.canonical_distinct payload
  split at read
  next members same =>
    rw [same] at distinct ⊢
    split at read
    next kind found =>
      obtain ⟨rfl, sensor, place, measured⟩ := ofKind_says distinct.1 read
      exact ⟨sensor, kindOf_from found, place, measured⟩
    next => cases read
  next => cases read

theorem reading_faithful_unended :
    let payload : Json := .obj
      [("sensor_id", .str "ESP-B2"), ("interseccion", .str "INT-C4"), ("vehiculos_contados", .int 7),
        ("intervalo_segundos", .int 30), ("timestamp_inicio", .str "1970-01-01T00:00:00Z"),
        ("timestamp_fin", .str "")]
    let r : Reading :=
      ⟨"INT-C4", "ESP-B2", Instant.epoch.after 30, .vehicles 7 .epoch (Instant.epoch.after 30)⟩
    ofPayload (.ofSettings {}) none payload = .accepted r ∧ "INT-C4" ∈ ({} : Settings).intersections ∧
      Faithful (.ofSettings {}) none payload.canonical r := by
  intro payload r
  have read : ofPayload (.ofSettings {}) none payload = .accepted r := by decide +kernel
  exact ⟨read, @reading_faithful {} (by decide +kernel) none payload r read⟩

end SensorLine

end Signalgrid
