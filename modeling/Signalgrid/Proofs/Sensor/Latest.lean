import Signalgrid.Sensor.Snapshot
import Signalgrid.Proofs.Time.Moments
import Mathlib.Algebra.GroupWithZero.Nat
import Mathlib.Data.List.Induction
import Mathlib.Data.List.Nodup

set_option autoImplicit false

namespace Signalgrid

section

variable {α : Type} {time : α → Instant}

def Latest (time : α → Instant) (xs : List α) : Option α → Prop
  | none => xs = []
  | some x =>
      ∃ before after, xs = before ++ x :: after ∧ (∀ y ∈ before, time y ≤ time x) ∧
        ∀ y ∈ after, time y < time x

theorem Latest.mem {xs : List α} {x : α} (latest : Latest time xs (some x)) : x ∈ xs := by
  obtain ⟨before, after, rfl, _, _⟩ := latest
  simp

theorem Latest.greatest {xs : List α} {x : α} (latest : Latest time xs (some x)) {y : α}
    (listed : y ∈ xs) : time y ≤ time x := by
  obtain ⟨before, after, rfl, upTo, below⟩ := latest
  rcases List.mem_append.mp listed with early | late
  · exact upTo y early
  · rcases List.mem_cons.mp late with rfl | late
    · exact le_refl _
    · exact le_of_lt (below y late)

theorem Latest.first (x : α) : Latest time [x] (some x) := ⟨[], [], rfl, by simp, by simp⟩

theorem Latest.renewed {xs : List α} {held : α} (latest : Latest time xs (some held)) {x : α}
    (renews : ¬ time x < time held) : Latest time (xs ++ [x]) (some x) := by
  refine ⟨xs, [], rfl, fun y listed => ?_, by simp⟩
  exact le_trans (latest.greatest listed) (not_lt.mp renews)

theorem Latest.late {xs : List α} {held : α} (latest : Latest time xs (some held)) {x : α}
    (late : time x < time held) : Latest time (xs ++ [x]) (some held) := by
  obtain ⟨before, after, rfl, upTo, below⟩ := latest
  refine ⟨before, after ++ [x], by simp, upTo, fun y listed => ?_⟩
  rcases List.mem_append.mp listed with earlier | new
  · exact below y earlier
  · rw [List.mem_singleton.mp new]
    exact late

theorem Latest.perm {xs ys : List α} (shuffled : xs.Perm ys) (distinct : (xs.map time).Nodup)
    {x y : Option α} (latestX : Latest time xs x) (latestY : Latest time ys y) : x = y := by
  cases x with
  | none =>
    obtain rfl : xs = [] := latestX
    obtain rfl := shuffled.nil_eq
    cases y with
    | none => rfl
    | some y => exact absurd latestY.mem (by simp)
  | some x =>
    cases y with
    | none =>
      obtain rfl : ys = [] := latestY
      exact absurd (shuffled.mem_iff.mp latestX.mem) (by simp)
    | some y =>
      have upTo : time y ≤ time x := latestX.greatest (shuffled.mem_iff.mpr latestY.mem)
      have downTo : time x ≤ time y := latestY.greatest (shuffled.mem_iff.mp latestX.mem)
      exact congrArg some (List.inj_on_of_nodup_map distinct latestX.mem
        (shuffled.mem_iff.mpr latestY.mem) (le_antisymm downTo upTo))

end

theorem Observed.offer_latest {α : Type} {xs : List (Observed α)} {held : Option (Observed α)}
    (latest : Latest Observed.observedAt xs held) (candidate : Option (Observed α)) :
    Latest Observed.observedAt (xs ++ candidate.toList) (candidate.elim held (offer held)) := by
  cases candidate with
  | none => simpa using latest
  | some x =>
    cases held with
    | none =>
      obtain rfl : xs = [] := latest
      exact Latest.first x
    | some o =>
      by_cases late : x.observedAt < o.observedAt
      · simpa [offer, renews, late] using latest.late late
      · simpa [offer, renews, late] using latest.renewed late

namespace Flow

def Summed (flows : List Flow) (held : Option Flow) : Prop :=
  ∃ latest, Latest Flow.observedAt flows latest ∧
    held = latest.map fun f => { f with total := min maxTotal (flows.map Flow.total).sum }

def add (held : Option Flow) (new : Flow) : Option Flow :=
  let total := totalOf held new.total
  if renews held new.observedAt then some { new with total := total }
  else held.map fun f => { f with total := total }

theorem totalOf_summed (held : Flow) (sum count : Nat) :
    totalOf (some { held with total := min maxTotal sum }) count = min maxTotal (sum + count) := by
  simp only [totalOf, Option.map_some, Option.getD_some]
  omega

theorem add_summed {flows : List Flow} {held : Option Flow} (summed : Summed flows held)
    (counted : Option Flow) :
    Summed (flows ++ counted.toList) (counted.elim held (add held)) := by
  cases counted with
  | none => simpa using summed
  | some new =>
    obtain ⟨latest, isLatest, rfl⟩ := summed
    cases latest with
    | none =>
      obtain rfl : flows = [] := isLatest
      exact ⟨some new, Latest.first new, by simp [add, renews, totalOf]⟩
    | some f =>
      by_cases late : new.observedAt < f.observedAt
      · refine ⟨some f, isLatest.late late, ?_⟩
        simp [add, renews, totalOf_summed, late]
      · refine ⟨some new, isLatest.renewed late, ?_⟩
        simp [add, renews, totalOf_summed, late]

end Flow

namespace Reading

def queue? (r : Reading) : Option (Observed Nat) :=
  match r.measurement with
  | .queue length _ => some (.ofReading r length)
  | _ => none

def speed? (r : Reading) : Option (Observed Float) :=
  match r.measurement with
  | .queue _ speed => some (.ofReading r speed)
  | .density speed _ => some (.ofReading r speed)
  | .vehicles .. => none

def level? (r : Reading) : Option (Observed Level) :=
  match r.measurement with
  | .density _ level => some (.ofReading r level)
  | _ => none

def flow? (r : Reading) : Option Flow :=
  match r.measurement with
  | .vehicles count start stop =>
      let seconds := (stop.since start).wholeSeconds
      some ⟨count, seconds, Flow.perMinuteOf count seconds, count, r.observedAt⟩
  | _ => none

end Reading

namespace Snapshot

theorem fold_eq (s : Snapshot) (r : Reading) :
    s.fold r =
      { queue := r.queue?.elim s.queue (Observed.offer s.queue)
        speed := r.speed?.elim s.speed (Observed.offer s.speed)
        level := r.level?.elim s.level (Observed.offer s.level)
        flow := r.flow?.elim s.flow (Flow.add s.flow) } := by
  obtain ⟨_, _, _, measurement⟩ := r
  cases measurement <;> rfl

structure Holds (readings : List Reading) (s : Snapshot) : Prop where
  queue : Latest Observed.observedAt (readings.filterMap Reading.queue?) s.queue
  speed : Latest Observed.observedAt (readings.filterMap Reading.speed?) s.speed
  level : Latest Observed.observedAt (readings.filterMap Reading.level?) s.level
  flow : Flow.Summed (readings.filterMap Reading.flow?) s.flow

theorem fold_holds {readings : List Reading} {s : Snapshot} (holds : Holds readings s) (r : Reading) :
    Holds (readings ++ [r]) (s.fold r) := by
  have concat : ∀ {α : Type} (f : Reading → Option α),
      (readings ++ [r]).filterMap f = readings.filterMap f ++ (f r).toList := by
    intro α f
    rw [List.filterMap_append]
    cases told : f r <;> simp [told]
  rw [fold_eq]
  constructor
  case queue => exact concat Reading.queue? ▸ Observed.offer_latest holds.queue r.queue?
  case speed => exact concat Reading.speed? ▸ Observed.offer_latest holds.speed r.speed?
  case level => exact concat Reading.level? ▸ Observed.offer_latest holds.level r.level?
  case flow => exact concat Reading.flow? ▸ Flow.add_summed holds.flow r.flow?

theorem foldl_holds (readings : List Reading) : Holds readings (readings.foldl fold {}) := by
  induction readings using List.reverseRecOn with
  | nil => exact ⟨rfl, rfl, rfl, none, rfl, rfl⟩
  | append_singleton earlier r ih =>
    rw [List.foldl_append]
    exact fold_holds ih r

def Distinct (readings : List Reading) : Prop :=
  ((readings.filterMap Reading.queue?).map Observed.observedAt).Nodup ∧
    ((readings.filterMap Reading.speed?).map Observed.observedAt).Nodup ∧
    ((readings.filterMap Reading.level?).map Observed.observedAt).Nodup ∧
    ((readings.filterMap Reading.flow?).map Flow.observedAt).Nodup

theorem Holds.perm {readings others : List Reading} (shuffled : readings.Perm others)
    (distinct : Distinct readings) {s t : Snapshot} (holds : Holds readings s)
    (holdsToo : Holds others t) : s = t := by
  obtain ⟨queues, speeds, levels, flows⟩ := distinct
  obtain ⟨queue, speed, level, latest, isLatest, flow⟩ := holds
  obtain ⟨queue', speed', level', latest', isLatest', flow'⟩ := holdsToo
  have counts := shuffled.filterMap Reading.flow?
  have sum := (counts.map Flow.total).sum_nat
  have sameQueue : s.queue = t.queue := queue.perm (shuffled.filterMap _) queues queue'
  have sameSpeed : s.speed = t.speed := speed.perm (shuffled.filterMap _) speeds speed'
  have sameLevel : s.level = t.level := level.perm (shuffled.filterMap _) levels level'
  have sameFlow : s.flow = t.flow := by rw [flow, flow', isLatest.perm counts flows isLatest', sum]
  cases s
  cases t
  exact (mk.injEq ..).mpr ⟨sameQueue, sameSpeed, sameLevel, sameFlow⟩

theorem foldl_latest (readings : List Reading) :
    let s := readings.foldl fold {}
    Latest Observed.observedAt (readings.filterMap Reading.queue?) s.queue ∧
      Latest Observed.observedAt (readings.filterMap Reading.speed?) s.speed ∧
      Latest Observed.observedAt (readings.filterMap Reading.level?) s.level ∧
      (∃ latest, Latest Flow.observedAt (readings.filterMap Reading.flow?) latest ∧
        s.flow = latest.map fun f =>
          { f with
            total := min Flow.maxTotal ((readings.filterMap Reading.flow?).map Flow.total).sum }) ∧
      ∀ others, readings.Perm others → Distinct readings → others.foldl fold {} = s := by
  intro s
  have holds : Holds readings s := foldl_holds readings
  exact ⟨holds.queue, holds.speed, holds.level, holds.flow, fun others shuffled distinct =>
    (holds.perm shuffled distinct (foldl_holds others)).symm⟩

theorem foldl_latest_shuffled :
    let camera : Reading := ⟨"INT-A1", "CAM-A1", Instant.epoch.after 10, .queue 4 30.0⟩
    let gps : Reading := ⟨"INT-A1", "GPS-A1", Instant.epoch.after 20, .density 45.0 .low⟩
    let loop (n : Nat) : Reading :=
      ⟨"INT-A1", "ESP-A1", Instant.epoch.after n, .vehicles 15 .epoch (Instant.epoch.after n)⟩
    [gps, camera, loop 60, loop 30].foldl fold {} = [camera, gps, loop 60, loop 30].foldl fold {} := by
  intro camera gps loop
  refine (foldl_latest [camera, gps, loop 60, loop 30]).2.2.2.2 _ (List.Perm.swap ..) ?_
  refine ⟨?_, ?_, ?_, ?_⟩ <;> decide +kernel

end Snapshot

end Signalgrid
