import Signalgrid.Proofs.Sensor.Overruns
import Signalgrid.Proofs.Settings.Checks

set_option autoImplicit false

namespace Signalgrid

theorem Intake.bind_accepted {α β : Type} {i : Intake α} {f : α → Intake β} {b : β} :
    i >>= f = .accepted b ↔ ∃ a, i = .accepted a ∧ f a = .accepted b := by
  change i.bind f = .accepted b ↔ _
  cases i <;> simp [bind]

theorem Grid.sensor?_mem {g : Grid} {id : String} {sensor : Sensor} (found : g.sensor? id = some sensor) :
    sensor ∈ g.sensors := by
  simpa using List.mem_of_find?_eq_some found

namespace SensorLine

open Intake

theorem speed_accepted {field : String} {value v : Float} :
    speed field value = .accepted v ↔ (value.isFinite = true ∧ 0.0 ≤ value) ∧ value = v := by
  unfold speed
  split
  next fine => simp_all
  next wrong => simp_all

section

variable {g : Grid} {r : Reading}

theorem camera_accepted {p : CameraPayload} (read : camera g p = .accepted r) :
    p.intersection ∈ g.ids ∧ (0 ≤ p.volume ∧ p.volume < 4294967296) ∧
      (p.speed.isFinite = true ∧ 0.0 ≤ p.speed) ∧
      ∃ t, Instant.ofStrict p.timestamp = .ok t ∧
        r = ⟨p.intersection, p.sensor, t, .queue p.volume.toNat p.speed⟩ := by
  obtain ⟨id, place, read⟩ := bind_accepted.mp read
  obtain ⟨length, counted, read⟩ := bind_accepted.mp read
  obtain ⟨v, moving, read⟩ := bind_accepted.mp read
  obtain ⟨t, dated, read⟩ := bind_accepted.mp read
  cases read
  obtain ⟨listed, rfl⟩ := intersection_accepted.mp place
  obtain ⟨fits, rfl⟩ := count_accepted.mp counted
  obtain ⟨fine, rfl⟩ := speed_accepted.mp moving
  exact ⟨listed, fits, fine, t, time_accepted.mp dated, rfl⟩

theorem loop_accepted {p : LoopPayload} (read : loop g p = .accepted r) :
    p.intersection ∈ g.ids ∧ (0 ≤ p.count ∧ p.count < 4294967296) ∧
      ∃ start stop, Instant.ofStrict p.start = .ok start ∧ loopEnd p start = .accepted stop ∧
        start ≤ stop ∧ r = ⟨p.intersection, p.sensor, stop, .vehicles p.count.toNat start stop⟩ := by
  obtain ⟨id, place, read⟩ := bind_accepted.mp read
  obtain ⟨n, counted, read⟩ := bind_accepted.mp read
  obtain ⟨start, dated, read⟩ := bind_accepted.mp read
  obtain ⟨stop, ended, read⟩ := bind_accepted.mp read
  split at read
  · cases read
  next forward =>
    cases read
    obtain ⟨listed, rfl⟩ := intersection_accepted.mp place
    obtain ⟨fits, rfl⟩ := count_accepted.mp counted
    exact ⟨listed, fits, start, stop, time_accepted.mp dated, ended, not_lt.mp forward, rfl⟩

theorem gps_accepted {p : GpsPayload} (read : gps g p = .accepted r) :
    (p.speed.isFinite = true ∧ 0.0 ≤ p.speed) ∧
      ∃ id t, gpsPlace g p = .accepted id ∧ Instant.ofStrict p.timestamp = .ok t ∧
        r = ⟨id, p.sensor, t, .density p.speed (p.level.getD (.ofSpeed p.speed))⟩ := by
  obtain ⟨id, place, read⟩ := bind_accepted.mp read
  obtain ⟨v, moving, read⟩ := bind_accepted.mp read
  obtain ⟨t, dated, read⟩ := bind_accepted.mp read
  cases read
  obtain ⟨fine, rfl⟩ := speed_accepted.mp moving
  exact ⟨fine, id, t, place, time_accepted.mp dated, rfl⟩

variable (placed : ∀ sensor ∈ g.sensors, sensor.intersection ∈ g.ids)

include placed

theorem gpsPlace_placed {p : GpsPayload} {id : IntersectionId} (place : gpsPlace g p = .accepted id) :
    id ∈ g.ids := by
  unfold gpsPlace at place
  split at place
  next name given =>
    obtain ⟨listed, rfl⟩ := intersection_accepted.mp place
    exact listed
  next =>
    split at place
    next sensor found =>
      cases place
      exact placed sensor (Grid.sensor?_mem found)
    next => cases place

theorem ofKind_placed {payload : Json} {kind : SensorKind} (read : ofKind g payload kind = .accepted r) :
    r.intersection ∈ g.ids := by
  cases kind with
  | camera =>
    obtain ⟨p, _, read⟩ := bind_accepted.mp read
    obtain ⟨listed, _, _, _, _, rfl⟩ := camera_accepted read
    exact listed
  | inductiveLoop =>
    obtain ⟨p, _, read⟩ := bind_accepted.mp read
    obtain ⟨listed, _, _, _, _, _, _, rfl⟩ := loop_accepted read
    exact listed
  | gps =>
    obtain ⟨p, _, read⟩ := bind_accepted.mp read
    obtain ⟨_, _, _, place, _, rfl⟩ := gps_accepted read
    exact gpsPlace_placed placed place

theorem ofPayload_placed {topic : Option String} {payload : Json}
    (read : ofPayload g topic payload = .accepted r) : r.intersection ∈ g.ids := by
  unfold ofPayload at read
  split at read
  next members _ =>
    split at read
    next kind _ => exact ofKind_placed placed read
    next => cases read
  next => cases read

theorem parse_placed {line : List Char} (parsed : parse g line = .accepted r) : r.intersection ∈ g.ids := by
  unfold parse at parsed
  split at parsed
  next => cases parsed
  next topic body _ =>
    split at parsed
    next => cases parsed
    next payload _ => exact ofPayload_placed placed parsed

end

theorem parse_configured {s : Settings} (valid : s.validate.isOk = true) {line : List Char} {r : Reading}
    (parsed : parse (.ofSettings s) line = .accepted r) : r.intersection ∈ s.intersections :=
  parse_placed (g := .ofSettings s) (Settings.sensorMap_placed valid) parsed

end SensorLine

end Signalgrid
