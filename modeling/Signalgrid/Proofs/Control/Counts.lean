import Signalgrid.Proofs.Control.History
import Signalgrid.Proofs.Control.Undisturbed
import Signalgrid.Proofs.Settings.Names

set_option autoImplicit false

namespace Signalgrid

namespace Grid

theorem distinct_sublist (seen ids : List IntersectionId) : (distinct seen ids).Sublist ids := by
  induction ids generalizing seen with
  | nil => exact .slnil
  | cons id rest ih =>
    simp only [distinct]
    split
    · exact .cons id (ih seen)
    · exact .cons_cons id (ih _)

theorem distinct_new {seen ids : List IntersectionId} (once : ids.Nodup) (new : ∀ id ∈ ids, id ∉ seen) :
    distinct seen ids = ids := by
  induction ids generalizing seen with
  | nil => rfl
  | cons id rest ih =>
    obtain ⟨unrepeated, once⟩ := List.nodup_cons.mp once
    obtain ⟨first, later⟩ := List.forall_mem_cons.mp new
    rw [distinct, if_neg first, ih once]
    intro other member
    rw [List.mem_cons, not_or]
    exact ⟨fun same => unrepeated (same ▸ member), later other member⟩

theorem distinct_length (ids : List IntersectionId) :
    (distinct [] ids).length = ids.length ↔ ids.Nodup := by
  constructor
  · intro same
    rw [← (distinct_sublist [] ids).eq_of_length same]
    exact distinct_nodup [] ids
  · intro once
    rw [distinct_new once (by simp)]

end Grid

def StateCounts.total (n : StateCounts) : Nat := n.normal + n.congestion + n.greenWave

namespace Controller

theorem StateCounts.total_add (n : StateCounts) (kind : TrafficKind) :
    (StateCounts.add n kind).total = n.total + 1 := by
  cases kind <;> simp only [StateCounts.add, StateCounts.total] <;> omega

theorem stateCounts_total (c : Controller) : c.stateCounts.total = c.cells.length := by
  have gathered : ∀ (cells : List (IntersectionId × Cell)) (n : StateCounts),
      (cells.foldl (fun n p => StateCounts.add n p.2.traffic.kind) n).total = n.total + cells.length := by
    intro cells
    induction cells with
    | nil => simp
    | cons p rest ih =>
      intro n
      rw [List.foldl_cons, ih, StateCounts.total_add, List.length_cons]
      omega
  exact (gathered c.cells {}).trans (Nat.zero_add _)

def names (c : Controller) : List IntersectionId := c.cells.map Prod.fst

theorem names_ofSettings (settings : Settings) (now : Instant) :
    (ofSettings settings now).names = Grid.distinct [] settings.intersections := by
  simp [names, ofSettings, Grid.ofSettings, Function.comp_def]

@[simp] theorem setCell_names (c : Controller) (id : IntersectionId) (cell : Cell) :
    (c.setCell id cell).names = c.names := by
  simp only [names, setCell, List.map_map]
  refine List.map_congr_left fun p _ => ?_
  simp only [Function.comp_apply]
  split
  next same => exact same.symm
  next => rfl

theorem goOver_names (now : Instant) (visits : List (IntersectionId × CellAct)) (c : Controller) :
    (c.goOver now visits).1.names = c.names := by
  induction visits generalizing c with
  | nil => rfl
  | cons v rest ih =>
    refine (ih (c.visit now v).1).trans ?_
    cases found : c.cell? v.1 with
    | none => rw [visit_missing now found]
    | some cell => rw [visit_found now found, setCell_names]

end Controller

namespace ControlRoom

theorem live_names {settings : Settings} {s : ControlRoom} (complete : s.controller.Complete settings)
    (events : List (Instant × Event)) : (s.live events).controller.names = s.controller.names := by
  induction events generalizing s with
  | nil => rfl
  | cons event rest ih =>
    refine (ih (befall_complete complete event.2)).trans ?_
    obtain ⟨visits, same⟩ := @befall_moves _ s complete event.1 event.2
    rw [same, Controller.goOver_names]

/-- Valid labels may run together; only where none do is there a cell and a sensor for each
intersection. -/
theorem places_exact {settings : Settings} (valid : settings.validate.isOk = true)
    {replica primary : Store} {start : Instant} {room : ControlRoom}
    (ready : start? settings replica primary start = some room) (events : List (Instant × Event)) :
    let c := (room.live events).controller
    c.grid.ids.length = settings.rows.length * settings.columns.length ∧
      c.stateCounts.total = c.cells.length ∧
      (settings.intersections.Nodup ↔ ¬ settings.Merges) ∧
      (c.cells.length = c.grid.ids.length ↔ ¬ settings.Merges) ∧
      (settings.sensors = [] →
        ((∀ a ∈ c.grid.sensors, ∀ b ∈ c.grid.sensors, a.id = b.id → a.intersection = b.intersection) ↔
            ¬ settings.Mixes) ∧
          ((∀ id ∈ c.grid.ids, ∀ kind (p : SensorLine.GpsPayload), p.intersection = none →
              p.sensor = (Settings.defaultSensor id kind).id →
              SensorLine.gpsPlace c.grid p = .accepted id) ↔ ¬ settings.Mixes)) := by
  intro c
  obtain ⟨rows, columns⟩ := Settings.validate_nodup valid
  have complete := start?_complete ready
  have grid : c.grid = .ofSettings settings := (live_complete complete events).grid
  have names : c.names = Grid.distinct [] settings.intersections := by
    rw [live_names complete events, (start?_fresh ready).1]
    exact Controller.names_ofSettings settings start
  have cells : c.cells.length = (Grid.distinct [] settings.intersections).length := by
    rw [← names, Controller.names, List.length_map]
  rw [grid]
  refine ⟨settings.intersections_length, c.stateCounts_total, Settings.intersections_nodup rows columns, ?_,
    fun none => ⟨Settings.sensorMap_apart none, Settings.gpsPlace_own none⟩⟩
  rw [cells]
  exact (Grid.distinct_length _).trans (Settings.intersections_nodup rows columns)

theorem places_exact_two_rows :
    let settings : Settings := { rows := ["A", "B"], columns := [1, 12] }
    let events : List (Instant × Event) :=
      [(.epoch, .operation (.wave (.row "B") "ambulance" "operator")),
        (.epoch, .operation (.hold "INT-A12" .green "operator")), (.epoch, .operation .sweep)]
    settings.validate.isOk = true ∧
      ∃ room,
        start? settings (.log { name := "replica" }) (.log { name := "primary" }) .epoch = some room ∧
          let c := (room.live events).controller
          c.grid.ids.length = 4 ∧ c.cells.length = 4 ∧ c.stateCounts = ⟨2, 0, 2⟩ ∧
            c.stateCounts.total = 4 ∧ settings.intersections.Nodup ∧
            ∀ level speed time, SensorLine.gpsPlace c.grid ⟨"GPS-A12", none, level, speed, time⟩ =
              .accepted "INT-A12" := by
  intro settings events
  have valid : settings.validate.isOk = true := by decide +kernel
  obtain ⟨listed, counted, named, celled, sensed⟩ := @places_exact settings valid
    (.log { name := "replica" }) (.log { name := "primary" }) .epoch _ (start?_onLogs (by decide) _) events
  have once : settings.intersections.Nodup := by decide +kernel
  have cells := (celled.mpr (named.mp once)).trans listed
  obtain ⟨apart, placed⟩ := sensed rfl
  have unmixed : ¬ settings.Mixes := apart.mp (by decide +kernel)
  have sensor : "GPS-A12" = (Settings.defaultSensor "INT-A12" .gps).id := by decide +kernel
  refine ⟨valid, _, start?_onLogs (by decide) _, listed, cells, by decide +kernel, counted.trans cells,
    once, ?_⟩
  intro level speed time
  exact placed.mpr unmixed "INT-A12" (by decide +kernel) .gps _ rfl sensor

theorem cells_merged :
    let settings : Settings := { rows := ["A", "A1"], columns := [1, 11] }
    settings.validate.isOk = true ∧ settings.intersections = ["INT-A1", "INT-A11", "INT-A11", "INT-A111"] ∧
      ∃ room,
        start? settings (.log { name := "replica" }) (.log { name := "primary" }) .epoch = some room ∧
          room.controller.grid.ids.length = 4 ∧ room.controller.cells.length = 3 ∧
          room.controller.stateCounts = ⟨3, 0, 0⟩ := by
  intro settings
  refine ⟨by decide +kernel, by decide +kernel, _, start?_onLogs (by decide) _, ?_⟩
  exact ⟨by decide +kernel, by decide +kernel, by decide +kernel⟩

theorem sensors_mixed :
    let settings : Settings := { rows := ["A", "INT-A"], columns := [1] }
    settings.validate.isOk = true ∧ settings.intersections = ["INT-A1", "INT-INT-A1"] ∧
      (Settings.defaultSensor "INT-A1" .gps).id = "GPS-A1" ∧
      ∀ level speed time, SensorLine.gpsPlace (.ofSettings settings)
        ⟨"GPS-A1", none, level, speed, time⟩ = .accepted "INT-INT-A1" := by
  intro settings
  refine ⟨by decide +kernel, by decide +kernel, by decide +kernel, ?_⟩
  intro level speed time
  have found : ((Grid.ofSettings settings).sensor? "GPS-A1").map Sensor.intersection =
      some "INT-INT-A1" := by decide +kernel
  obtain ⟨sensor, led, place⟩ := Option.map_eq_some_iff.mp found
  simp [SensorLine.gpsPlace, led, place]

end ControlRoom

end Signalgrid
