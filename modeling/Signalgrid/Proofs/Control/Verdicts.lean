import Signalgrid.Control.Rules
import Signalgrid.Proofs.Sensor.Speeds
import Signalgrid.Proofs.Settings.Checks

set_option autoImplicit false

namespace Signalgrid

namespace Snapshot

def judged (s : Snapshot) : Snapshot := { s with flow := none }

theorem fold_judged (s : Snapshot) (r : Reading) :
    (s.fold r).judged =
      if r.measurement.sensorKind = .inductiveLoop then s.judged else s.judged.fold r := by
  rw [fold, fold]
  cases r.measurement <;> rfl

theorem run_judged (s : Snapshot) (readings : List Reading) :
    (readings.foldl fold s).judged =
      (readings.filter fun r => r.measurement.sensorKind ≠ .inductiveLoop).foldl fold s.judged := by
  induction readings generalizing s with
  | nil => rfl
  | cons r rest ih =>
    rw [List.foldl_cons, ih, fold_judged, List.filter_cons]
    by_cases counted : r.measurement.sensorKind = .inductiveLoop <;> simp [counted]

theorem run_uncounted (s : Snapshot) (readings : List Reading) :
    (readings.foldl fold s).judged =
      ((readings.filter fun r => r.measurement.sensorKind ≠ .inductiveLoop).foldl fold s).judged := by
  rw [run_judged, run_judged, List.filter_filter]
  simp only [Bool.and_self]

end Snapshot

namespace Thresholds

variable {t : Thresholds} {s : Snapshot}

theorem congested_iff :
    t.congested s = true ↔
      (∃ o ∈ s.queue, t.congestionQueueMin ≤ o.value) ∨ (∃ o ∈ s.speed, o.value ≤ t.congestionSpeedMax) ∨
        ∃ o ∈ s.level, o.value = .high := by
  simp [congested, Option.any_eq_true, or_assoc]

theorem flowing_iff :
    t.flowing s = true ↔
      (∃ o ∈ s.queue, o.value < t.normalQueueMax) ∧ (∃ o ∈ s.speed, t.normalSpeedMin < o.value) ∧
        ∃ o ∈ s.level, o.value ≠ .high := by
  simp [flowing, Option.any_eq_true, and_assoc]

/-- Bounds that do not cross leave no room between them, and none that meet: one test of each pair is
strict. -/
theorem not_both (queues : t.normalQueueMax ≤ t.congestionQueueMin)
    (speeds : ¬ t.normalSpeedMin < t.congestionSpeedMax) :
    ¬ (t.congested s = true ∧ t.flowing s = true) := by
  rw [congested_iff, flowing_iff]
  rintro ⟨⟨o, known, long⟩ | ⟨o, known, slow⟩ | ⟨o, known, high⟩, ⟨p, knownQueue, short⟩, ⟨q, knownSpeed, fast⟩,
    ⟨r, knownLevel, low⟩⟩
  · obtain rfl := Option.mem_unique known knownQueue
    omega
  · obtain rfl := Option.mem_unique known knownSpeed
    exact speeds (Speed.lt_of_lt_of_le fast slow)
  · obtain rfl := Option.mem_unique known knownLevel
    exact low high

def judgeFlowing (t : Thresholds) (s : Snapshot) : Verdict :=
  if t.flowing s then .normal else if t.congested s then .congestion else .inconclusive

theorem judgeFlowing_eq : t.judgeFlowing s = t.judge s ↔ ¬ (t.congested s = true ∧ t.flowing s = true) := by
  rw [judgeFlowing, judge]
  cases t.congested s <;> cases t.flowing s <;> decide

theorem judge_judged (t : Thresholds) (s : Snapshot) : t.judge s.judged = t.judge s := rfl

theorem judge_normal (verdict : t.judge s = .normal) : t.flowing s = true := by
  unfold judge at verdict
  split at verdict
  · cases verdict
  · split at verdict
    next flowing => exact flowing
    next => cases verdict

theorem judge_unnumbered (unnumbered : t.normalSpeedMin.isNaN = true) : t.judge s ≠ .normal := by
  intro verdict
  obtain ⟨-, ⟨o, -, fast⟩, -⟩ := flowing_iff.mp (judge_normal verdict)
  have number := (Speed.numbers_of_le (Speed.le_of_lt fast)).1
  exact absurd (unnumbered.symm.trans number) (by decide)

end Thresholds

namespace Settings

theorem verdicts_exclusive {settings : Settings} (valid : settings.validate.isOk = true) (s : Snapshot) :
    let t := settings.thresholds
    ¬ (t.congested s = true ∧ t.flowing s = true) ∧ t.judgeFlowing s = t.judge s ∧
      (∀ flow, t.judge { s with flow := flow } = t.judge s) ∧
      (∀ r : Reading, r.measurement.sensorKind = .inductiveLoop → t.judge (s.fold r) = t.judge s) ∧
      ∀ readings : List Reading,
        t.judge (readings.foldl Snapshot.fold s) =
          t.judge ((readings.filter fun r => r.measurement.sensorKind ≠ .inductiveLoop).foldl Snapshot.fold s) := by
  intro t
  obtain ⟨sound, speeds⟩ := validate_ok.mp (validate_isOk.mp valid)
  have apart : ¬ (t.congested s = true ∧ t.flowing s = true) := Thresholds.not_both sound.queues speeds
  refine ⟨apart, Thresholds.judgeFlowing_eq.mpr apart, fun _ => rfl, fun r counted => ?_, fun readings => ?_⟩
  · rw [← t.judge_judged, Snapshot.fold_judged, if_pos counted, t.judge_judged]
  · rw [← t.judge_judged (readings.foldl Snapshot.fold s), Snapshot.run_uncounted, t.judge_judged]

theorem verdicts_exclusive_at_bounds :
    let settings : Settings :=
      { thresholds := ⟨8, 25.0, 8, 25.0⟩ }
    let s : Snapshot :=
      { queue := some ⟨8, .epoch, "CAM-A1"⟩
        speed := some ⟨25.0, .epoch, "GPS-A1"⟩
        level := some ⟨.low, .epoch, "GPS-A1"⟩ }
    settings.validate.isOk = true ∧ settings.thresholds.judge s = .congestion ∧
      settings.thresholds.flowing s = false ∧
      settings.thresholds.judgeFlowing s = settings.thresholds.judge s := by
  intro settings s
  have valid : settings.validate.isOk = true := by decide +kernel
  have jammed : settings.thresholds.judge s = .congestion := by decide
  refine ⟨valid, jammed, by decide, (verdicts_exclusive valid s).2.1⟩

end Settings

end Signalgrid
