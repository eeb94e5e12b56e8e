import Signalgrid.Settings.Validate

set_option autoImplicit false

namespace Signalgrid

def Unseen {α : Type} (seen items : List α) : Prop := items.Nodup ∧ ∀ a ∈ items, a ∉ seen

theorem unseen_cons {α : Type} {seen rest : List α} {a : α} :
    Unseen seen (a :: rest) ↔ a ∉ seen ∧ Unseen (a :: seen) rest := by
  constructor
  · rintro ⟨once, apart⟩
    obtain ⟨fresh, once⟩ := List.nodup_cons.mp once
    obtain ⟨new, apart⟩ := List.forall_mem_cons.mp apart
    refine ⟨new, once, fun b later known => ?_⟩
    rcases List.mem_cons.mp known with rfl | known
    · exact fresh later
    · exact apart b later known
  · rintro ⟨new, once, apart⟩
    refine ⟨List.nodup_cons.mpr ⟨fun again => apart a again (by simp), once⟩, ?_⟩
    exact List.forall_mem_cons.mpr ⟨new, fun b later known => apart b later (List.mem_cons_of_mem _ known)⟩

theorem unseen_nil {α : Type} {items : List α} : Unseen [] items ↔ items.Nodup := by
  simp [Unseen]

structure Timings.Sound (t : Timings) : Prop where
  cycle : 1 ≤ t.cycleSeconds ∧ t.cycleSeconds ≤ 86400
  extension : 1 ≤ t.extensionSeconds ∧ t.extensionSeconds ≤ 86400
  wave : 1 ≤ t.waveSeconds ∧ t.waveSeconds ≤ 86400
  probe : 1 ≤ t.probeSeconds ∧ t.probeSeconds ≤ 86400
  timeout : 1 ≤ t.probeTimeoutMillis ∧ t.probeTimeoutMillis ≤ 86400000
  sweep : 1 ≤ t.sweepMillis ∧ t.sweepMillis ≤ 86400000
  retries : 0 < t.probeRetries

structure PrimarySettings.Sound (p : PrimarySettings) : Prop where
  depth : 0 < p.queueDepth
  timeout : 1 ≤ p.timeoutMillis ∧ p.timeoutMillis ≤ 86400000

namespace Settings

structure Sound (s : Settings) : Prop where
  rows : s.rows ≠ []
  columns : s.columns ≠ []
  labels : ∀ row ∈ s.rows, row ≠ ""
  rowsOnce : s.rows.Nodup
  columnsOnce : s.columns.Nodup
  placed : ∀ sensor ∈ s.sensors, sensor.intersection ∈ s.intersections
  sensorsOnce : (s.sensors.map Sensor.id).Nodup
  timings : s.timings.Sound
  primary : s.primary.Sound
  queues : s.thresholds.normalQueueMax ≤ s.thresholds.congestionQueueMin

theorem then_ok {first second : Check} :
    (first >>= fun _ => second) = .ok () ↔ first = .ok () ∧ second = .ok () := by
  cases first with
  | error fault => exact iff_of_false nofun (fun passed => nomatch passed.1)
  | ok done => exact (and_iff_right rfl).symm

theorem guard_ok {faulty : Prop} [Decidable faulty] {fault : SettingsFault} {rest : Check} :
    (if faulty then .error fault else rest) = .ok () ↔ ¬ faulty ∧ rest = .ok () := by
  split
  next there => exact iff_of_false nofun (fun passed => passed.1 there)
  next absent => exact ⟨fun passed => ⟨absent, passed⟩, And.right⟩

theorem checkRows_ok {seen rows : List String} :
    checkRows seen rows = .ok () ↔ (∀ row ∈ rows, row ≠ "") ∧ Unseen seen rows := by
  induction rows generalizing seen with
  | nil => simp [checkRows, Unseen]
  | cons row rest ih =>
    rw [checkRows, guard_ok, guard_ok, ih, unseen_cons, List.forall_mem_cons, String.isEmpty_iff, ← and_assoc]
    exact and_and_and_comm

theorem checkColumns_ok {seen columns : List Nat} :
    checkColumns seen columns = .ok () ↔ Unseen seen columns := by
  induction columns generalizing seen with
  | nil => simp [checkColumns, Unseen]
  | cons column rest ih => rw [checkColumns, guard_ok, ih, unseen_cons]

theorem checkSensors_ok {known : List IntersectionId} {seen : List String} {sensors : List Sensor} :
    checkSensors known seen sensors = .ok () ↔
      (∀ sensor ∈ sensors, sensor.intersection ∈ known) ∧ Unseen seen (sensors.map Sensor.id) := by
  induction sensors generalizing seen with
  | nil => simp [checkSensors, Unseen]
  | cons sensor rest ih =>
    rw [checkSensors, guard_ok, guard_ok, ih, List.map_cons, unseen_cons, List.forall_mem_cons, Decidable.not_not,
      ← and_assoc]
    exact and_and_and_comm

theorem checkPositive_ok {field : String} {value : Nat} : checkPositive field value = .ok () ↔ 0 < value := by
  rw [checkPositive, guard_ok, Nat.pos_iff_ne_zero]
  exact and_iff_left rfl

theorem checkRange_ok {field : String} {limit value : Nat} :
    checkRange field limit value = .ok () ↔ 1 ≤ value ∧ value ≤ limit := by
  rw [checkRange, then_ok, checkPositive_ok, guard_ok, Nat.not_lt]
  exact and_congr_right fun _ => and_iff_left rfl

theorem checkTimings_ok {t : Timings} : checkTimings t = .ok () ↔ t.Sound := by
  simp only [checkTimings, then_ok, checkRange_ok, checkPositive_ok]
  constructor
  · rintro ⟨cycle, extension, wave, probe, timeout, sweep, retries⟩
    exact ⟨cycle, extension, wave, probe, timeout, sweep, retries⟩
  · rintro ⟨cycle, extension, wave, probe, timeout, sweep, retries⟩
    exact ⟨cycle, extension, wave, probe, timeout, sweep, retries⟩

theorem checkPrimary_ok {p : PrimarySettings} : checkPrimary p = .ok () ↔ p.Sound := by
  simp only [checkPrimary, then_ok, checkRange_ok, checkPositive_ok]
  exact ⟨fun ⟨depth, timeout⟩ => ⟨depth, timeout⟩, fun ⟨depth, timeout⟩ => ⟨depth, timeout⟩⟩

theorem checkThresholds_ok {t : Thresholds} :
    checkThresholds t = .ok () ↔
      t.normalQueueMax ≤ t.congestionQueueMin ∧ ¬ t.normalSpeedMin < t.congestionSpeedMax := by
  rw [checkThresholds, guard_ok, guard_ok, Nat.not_lt]
  exact and_congr_right fun _ => and_iff_left rfl

theorem validate_ok {s : Settings} :
    s.validate = .ok () ↔ s.Sound ∧ ¬ s.thresholds.normalSpeedMin < s.thresholds.congestionSpeedMax := by
  unfold validate
  refine (@guard_ok _ _ .noIntersections _).trans ?_
  simp only [then_ok, checkRows_ok, checkColumns_ok, checkSensors_ok, checkTimings_ok, checkPrimary_ok,
    checkThresholds_ok, unseen_nil, Bool.or_eq_true, List.isEmpty_iff, not_or]
  constructor
  · rintro ⟨⟨rows, columns⟩, ⟨labels, rowsOnce⟩, columnsOnce, ⟨placed, sensorsOnce⟩, timings, primary, queues,
      speeds⟩
    exact ⟨⟨rows, columns, labels, rowsOnce, columnsOnce, placed, sensorsOnce, timings, primary, queues⟩, speeds⟩
  · rintro ⟨⟨rows, columns, labels, rowsOnce, columnsOnce, placed, sensorsOnce, timings, primary, queues⟩, speeds⟩
    exact ⟨⟨rows, columns⟩, ⟨labels, rowsOnce⟩, columnsOnce, ⟨placed, sensorsOnce⟩, timings, primary, queues,
      speeds⟩

theorem validate_isOk {s : Settings} : s.validate.isOk = true ↔ s.validate = .ok () := by
  cases s.validate <;> simp [Except.isOk, Except.toBool]

section

variable {s : Settings} (valid : s.validate.isOk = true)

include valid

theorem validate_sound : s.Sound := (validate_ok.mp (validate_isOk.mp valid)).1

theorem timings_positive : 0 < s.timings.extensionSeconds ∧ 0 < s.timings.waveSeconds :=
  ⟨(validate_sound valid).timings.extension.1, (validate_sound valid).timings.wave.1⟩

theorem sensorMap_placed : ∀ sensor ∈ s.sensorMap, sensor.intersection ∈ s.intersections := by
  unfold sensorMap
  split
  · intro sensor member
    obtain ⟨id, listed, made⟩ := List.mem_flatMap.mp member
    obtain ⟨kind, _, rfl⟩ := List.mem_map.mp made
    exact listed
  · exact (validate_sound valid).placed

end

end Settings

end Signalgrid
