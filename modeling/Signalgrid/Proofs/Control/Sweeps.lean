import Signalgrid.Proofs.Control.Forecast
import Signalgrid.Proofs.Control.Holds
import Signalgrid.Proofs.Control.Readings

set_option autoImplicit false

namespace Signalgrid

namespace Signal

def Plain (s : Signal) : Prop := ∀ anchor ∈ s.anchor?, anchor.isLeap = false

def Current (cycle : Span) (s : Signal) (now : Instant) : Prop :=
  s.UpToDate now ∧ (s.mode = .cycling → now.since s.phaseStart < cycle)

section

variable {s : Signal} (cycle : Span) (id : IntersectionId) {now : Instant}

theorem turn_plainly (plain : s.phaseStart.isLeap = false) :
    (s.turn cycle id now).1.phaseStart.isLeap = false := by
  have next : ((nextAnchor? cycle s now).getD .latest).isLeap = false := by
    cases moved : nextAnchor? cycle s now with
    | none => exact Instant.latest_plain
    | some anchor =>
      rw [nextAnchor?, Instant.add?_plain plain] at moved
      exact (Instant.ofNanos?_eq_some moved).2
  simp only [turn]
  split_ifs
  · exact plain
  · exact next
  · exact next

theorem Plain.lapse (plain : s.Plain) (now : Instant) : (s.lapse now).Plain := by
  rcases s.lapse_cases now with same | ⟨deadline, cause, mode, _, given⟩
  · rwa [same]
  · rw [given]
    intro anchor member
    cases member
    exact plain deadline (by simp [anchor?, mode])

theorem Plain.tick (plain : s.Plain) : (s.tick cycle id now).1.Plain := by
  have turned {r : Signal} (cycling : r.mode = .cycling) (plainly : r.phaseStart.isLeap = false) :
      (r.turn cycle id now).1.Plain := by
    intro anchor member
    rw [anchor?_cycling ((turn_mode cycle id r).trans cycling)] at member
    cases member
    exact turn_plainly cycle id plainly
  cases mode : s.mode with
  | cycling =>
    rw [tick_cycling cycle id mode]
    exact turned mode (plain _ (anchor?_cycling mode))
  | timed deadline cause =>
    by_cases early : now < deadline
    · rw [tick_early cycle id mode early]
      exact plain
    · rw [tick_late cycle id mode early]
      exact turned rfl (plain deadline (by simp [anchor?, mode]))
  | held =>
    rw [tick_held cycle id mode]
    exact plain

theorem apply_plain (s : Signal) {c : Command} (plain : c.issuedAt.isLeap = false) :
    (s.apply c).1.Plain := by
  intro anchor member
  cases seconds : c.seconds with
  | none => simp [anchor?, Command.mode, seconds] at member
  | some n =>
    simp only [anchor?, apply_mode, Command.mode, seconds, Option.mem_def, Option.some.injEq] at member
    subst member
    exact (Instant.after_plain plain n).1

theorem Plain.resume (plain : s.Plain) (plainNow : now.isLeap = false) : (s.resume now).Plain := by
  unfold Signal.resume
  split
  next => exact plain
  next =>
    intro anchor member
    cases member
    exact plainNow

theorem turn_current {n : Nat} (ready : s.phaseStart.isLeap = false) (plainNow : now.isLeap = false)
    (few : cyclesBetween n s.phaseStart now ≤ maxPhases) :
    now.since (s.turn (cycleSpan n) id now).1.phaseStart < cycleSpan n := by
  by_cases due : now.since s.phaseStart < cycleSpan n
  · simp [turn, due]
  · have long := (due_iff n s now).mp due
    have forward : s.phaseStart ≤ now := by
      have positive := cycleNanos_pos n
      rw [Instant.le_iff_stamp ready plainNow]
      rw [Instant.since_plain plainNow ready] at long
      omega
    -- The anchor moves by all the whole cycles that have passed, and none is left.
    have moved := (turn_plain n id ready plainNow forward few).2
    obtain ⟨plainNext, count⟩ := anchor_advance n ready plainNow moved
    have behind := anchor_behind n ready plainNow moved le_rfl
    rw [underway_iff n _ (Instant.since_nonneg plainNow plainNext behind)]
    omega

theorem tick_current {n : Nat} (ready : s.Ready n now) (plainNow : now.isLeap = false) :
    (s.tick (cycleSpan n) id now).1.Current (cycleSpan n) now := by
  refine ⟨s.tick_upToDate _ id now, ?_⟩
  cases mode : s.mode with
  | cycling =>
    obtain ⟨plain, few⟩ := ready _ (anchor?_cycling mode)
    rw [tick_cycling _ id mode]
    exact fun _ => turn_current id plain plainNow few
  | timed deadline cause =>
    obtain ⟨plain, few⟩ := ready deadline (by simp [anchor?, mode])
    by_cases early : now < deadline
    · rw [tick_early _ id mode early, mode]
      rintro ⟨⟩
    · rw [tick_late _ id mode early]
      exact fun _ => turn_current (s := s.lapsed deadline) id plain plainNow few
  | held =>
    rw [tick_held _ id mode, mode]
    rintro ⟨⟩

theorem Current.tick (current : s.Current cycle now) : s.tick cycle id now = (s, none) := by
  cases mode : s.mode with
  | cycling => rw [tick_cycling cycle id mode, turn, if_pos (current.2 mode)]
  | timed deadline cause => exact tick_early cycle id mode (current.1 deadline cause mode)
  | held => exact tick_held cycle id mode

theorem tick_unmoved (held : (s.tick cycle id now).1.mode = .held) : (s.tick cycle id now).1 = s := by
  cases mode : s.mode with
  | cycling =>
    rw [tick_cycling cycle id mode, turn_mode, mode] at held
    cases held
  | timed deadline cause =>
    by_cases early : now < deadline
    · rw [tick_early cycle id mode early]
    · rw [tick_late cycle id mode early, turn_mode] at held
      cases held
  | held => rw [tick_held cycle id mode]

end

end Signal

structure Cell.Settled (cycle : Span) (now : Instant) (c : Cell) : Prop where
  wave : c.traffic.kind = .greenWave → ∃ expiry, c.traffic.expiresAt = some expiry ∧ now < expiry
  timed : ∀ deadline cause, c.signal.mode = .timed deadline cause → now < deadline
  cycling : c.signal.mode = .cycling → now.since c.signal.phaseStart < cycle

namespace Cell

variable {c : Cell} {policy : Policy} (id : IntersectionId) {now : Instant}

theorem Settled.sweep (settled : c.Settled policy.cycle now) : c.sweep policy id now = { cell := c } := by
  have ticked : Pass.tick policy id now { cell := c } = { cell := c } := by
    simp only [Pass.tick, Signal.Current.tick policy.cycle id ⟨settled.timed, settled.cycling⟩]
    rfl
  rw [Cell.sweep, ticked]
  refine if_neg fun ended => ?_
  obtain ⟨expiry, expires, early⟩ := settled.wave ended.1
  simp [Traffic.waveActive, expires, early] at ended

theorem Settled.sweeps (settled : c.Settled policy.cycle now) (n : Nat) :
    c.undergo policy id now (List.replicate n .sweep) = (c, []) := by
  induction n with
  | zero => rfl
  | succ n ih => simp only [List.replicate_succ, undergo, act, settled.sweep id, ih, List.append_nil]

theorem evaluate_plain {p : Pass} (plain : p.cell.signal.Plain) (plainNow : now.isLeap = false) :
    (p.evaluate policy id now).1.cell.signal.Plain := by
  rcases p.evaluate_signal policy id now with same | same | same <;> rw [same]
  · exact plain
  · exact plain.resume plainNow
  · exact Signal.apply_plain _ plainNow

theorem act_plain (a : CellAct) (plain : c.signal.Plain) (plainNow : now.isLeap = false) :
    (c.act policy id now a).cell.signal.Plain := by
  have ticked (id : IntersectionId) (s : Snapshot) :
      (Pass.tick policy id now { cell := { c with snapshot := s } }).cell.signal.Plain := by
    rw [Pass.tick_cell]
    exact plain.tick _ id
  cases a with
  | ingest r =>
    simp only [act, ingest]
    split
    · exact evaluate_plain _ (ticked _ _) plainNow
    · exact ticked _ _
  | sweep =>
    simp only [act, sweep]
    split
    · exact evaluate_plain _ (ticked _ _) plainNow
    · exact ticked _ _
  | wave reason =>
    rw [act, wave_cell]
    exact Signal.apply_plain _ plainNow
  | hold color =>
    rw [act, hold_cell]
    exact Signal.apply_plain _ plainNow
  | stall seen => exact plain.lapse now

structure Swept (cycle : Span) (now : Instant) (before after : Cell) : Prop where
  settled : after.Settled cycle now
  snapshot : after.snapshot = before.snapshot
  held : after.signal.mode = .held → after.signal = before.signal

theorem leaveWave_signal {p : Pass} (wave : p.cell.traffic.kind = .greenWave)
    (ended : p.cell.traffic.waveActive now = false) :
    (p.evaluate policy id now).1.cell.signal = p.cell.signal ∨
      (p.evaluate policy id now).1.cell.signal.mode =
        .timed (now.after policy.timings.extensionSeconds) .congestion := by
  have decided := p.cell.traffic.evaluate_waveOver policy id p.cell.snapshot
    (p.cell.signal.extending now) now wave ended
  cases verdict : policy.thresholds.judge p.cell.snapshot with
  | congestion =>
    simp only [verdict, Traffic.leaveWave] at decided
    rw [Pass.evaluate_extension decided]
    exact .inr (Signal.apply_mode ..)
  | normal =>
    simp only [verdict, Traffic.leaveWave] at decided
    rw [Pass.evaluate_calm decided]
    exact .inl rfl
  | inconclusive =>
    simp only [verdict, Traffic.leaveWave] at decided
    rw [Pass.evaluate_calm decided]
    exact .inl rfl

theorem evaluate_swept {p : Pass} (current : p.cell.signal.Current policy.cycle now)
    (wave : p.cell.traffic.kind = .greenWave) (ended : p.cell.traffic.waveActive now = false)
    (ahead : now < now.after policy.timings.extensionSeconds) :
    p.cell.Swept policy.cycle now (p.evaluate policy id now).1.cell := by
  have left := (Pass.evaluate_released policy id wave ended).not_wave
  rcases leaveWave_signal id wave ended with same | extended
  · refine ⟨⟨fun wave => absurd wave left, ?_, ?_⟩, p.evaluate_snapshot policy id now, fun _ => same⟩
    · rw [same]
      exact current.1
    · rw [same]
      exact current.2
  · refine ⟨⟨fun wave => absurd wave left, ?_, ?_⟩, p.evaluate_snapshot policy id now, ?_⟩
    · intro deadline cause mode
      rw [extended] at mode
      cases mode
      exact ahead
    · rw [extended]
      rintro ⟨⟩
    · rw [extended]
      rintro ⟨⟩

theorem sweep_swept (ready : c.signal.Ready policy.timings.cycleSeconds now)
    (plainNow : now.isLeap = false) (ahead : now < now.after policy.timings.extensionSeconds) :
    c.Swept policy.cycle now (c.sweep policy id now).cell := by
  have current : (c.signal.tick policy.cycle id now).1.Current policy.cycle now :=
    Signal.tick_current id ready plainNow
  have swept : ({ c with signal := (c.signal.tick policy.cycle id now).1 } : Cell).Swept policy.cycle now
      (c.sweep policy id now).cell := by
    simp only [sweep]
    split
    next ended =>
      have evaluated := @evaluate_swept policy id now (Pass.tick policy id now { cell := c })
      rw [Pass.tick_cell] at evaluated ended
      exact evaluated current ended.1 (by simpa using ended.2) ahead
    next going =>
      rw [Pass.tick_cell] at going ⊢
      refine ⟨⟨fun wave => ?_, current.1, current.2⟩, rfl, fun _ => rfl⟩
      simp only [not_and, Bool.not_eq_true', Bool.not_eq_false] at going
      have active := going wave
      simp only [Traffic.waveActive, Bool.and_eq_true, Option.any_eq_true, decide_eq_true_eq] at active
      exact active.2
  refine ⟨swept.settled, swept.snapshot, fun held => ?_⟩
  have same := swept.held held
  rw [same] at held ⊢
  exact Signal.tick_unmoved policy.cycle id held

end Cell

namespace Controller

theorem sweepCells_settled {c : Controller} {now : Instant} (once : c.names.Nodup)
    (settled : ∀ id cell, c.cell? id = some cell → cell.Settled c.policy.cycle now)
    (ids : List IntersectionId) : sweepCells now ids (c, {}) = (c, {}) := by
  induction ids with
  | nil => rfl
  | cons id rest ih =>
    simp only [sweepCells]
    split
    next => exact ih
    next cell found =>
      rw [(settled id cell found).sweep id, setCell_self once found]
      exact ih

theorem sweep_cell? {c : Controller} {now : Instant} {id : IntersectionId} {cell : Cell}
    (listed : id ∈ c.grid.ids) (found : c.cell? id = some cell)
    (settled : (cell.sweep c.policy id now).cell.Settled c.policy.cycle now) :
    (c.sweep now).1.cell? id = some (cell.sweep c.policy id now).cell := by
  obtain ⟨n, times⟩ := Nat.exists_eq_add_of_lt (List.count_pos_iff.mpr listed)
  rw [sweep, (sweepCells_goOver now c.grid.ids {}).1, goOver_cell?, actsOn_map, found, times, Nat.zero_add,
    List.replicate_succ, Option.map_some, Cell.undergo]
  simp only [Cell.act, settled.sweeps id n]

end Controller

namespace ControlRoom

section

variable {settings : Settings} {s : ControlRoom} (complete : s.controller.Complete settings)

include complete

theorem live_paired (events : List (Instant × Event)) :
    (s.live events).controller.Paired s.controller := by
  induction events generalizing s with
  | nil => exact .refl _
  | cons event rest ih =>
    exact (ih (befall_complete complete event.2)).trans (befall_moves complete event.2).paired

theorem live_cells (allowed : Instant → Prop) {kept : Cell → Prop}
    (step : ∀ id now, allowed now → ∀ a c, kept c → kept (c.act s.controller.policy id now a).cell)
    (start : ∀ id cell, s.controller.cell? id = some cell → kept cell)
    (events : List (Instant × Event)) (all : ∀ event ∈ events, allowed event.1) :
    ∀ id cell, (s.live events).controller.cell? id = some cell → kept cell := by
  induction events generalizing s with
  | nil => exact start
  | cons event rest ih =>
    obtain ⟨first, later⟩ := List.forall_mem_cons.mp all
    have policy := (live_paired complete [event]).policy
    refine ih (befall_complete complete event.2) (policy ▸ step) ?_ later
    intro id cell found
    -- Whatever the event is, it does no more to the cell than to visit it.
    obtain ⟨visits, same⟩ := @befall_moves _ s complete event.1 event.2
    rw [same, Controller.goOver_cell?, Option.map_eq_some_iff] at found
    obtain ⟨before, there, rfl⟩ := found
    exact Cell.undergo_keeps _ (fun a _ => step id event.1 first a) (start id before there)

end

theorem sweep_settled {s : ControlRoom} {now : Instant} (inside : now.isFinalLeap = false)
    (once : s.controller.names.Nodup)
    (settled : ∀ id cell, s.controller.cell? id = some cell →
      cell.Settled s.controller.policy.cycle now) : s.sweep now = .ok (0, s) := by
  rw [sweep, guardTick_inside s inside, Controller.sweep, Controller.sweepCells_settled once settled]
  rfl

theorem sweep_twice {s : ControlRoom} {now : Instant} (inside : now.isFinalLeap = false)
    (once : s.controller.names.Nodup)
    (listed : ∀ id cell, s.controller.cell? id = some cell → id ∈ s.controller.grid.ids)
    (swept : ∀ id cell, s.controller.cell? id = some cell →
      cell.Swept s.controller.policy.cycle now (cell.sweep s.controller.policy id now).cell) :
    ∃ n s', s.sweep now = .ok (n, s') ∧
      (∀ id cell, s.controller.cell? id = some cell → ∃ after,
        s'.controller.cell? id = some after ∧ cell.Swept s.controller.policy.cycle now after) ∧
      s'.sweep now = .ok (0, s') := by
  have after : ∀ id cell, s.controller.cell? id = some cell →
      (s.controller.sweep now).1.cell? id = some (cell.sweep s.controller.policy id now).cell :=
    fun id cell found => Controller.sweep_cell? (listed id cell found) found (swept id cell found).settled
  have paired : (s.controller.sweep now).1.Paired s.controller := s.controller.operate_paired now .sweep
  refine ⟨_, _, by rw [sweep, guardTick_inside s inside],
    fun id cell found => ⟨_, after id cell found, swept id cell found⟩, sweep_settled inside ?_ ?_⟩
  · rw [install_controller, Controller.sweep, (Controller.sweepCells_goOver now s.controller.grid.ids {}).1,
      Controller.goOver_names]
    exact once
  · intro id later found
    rw [install_controller] at found ⊢
    have there := paired.present id
    rw [found] at there
    obtain ⟨cell, before⟩ := Option.isSome_iff_exists.mp there.symm
    rw [after id cell before] at found
    cases found
    rw [paired.policy]
    exact (swept id cell before).settled

section

variable {settings : Settings} (valid : settings.validate.isOk = true)
  {replica primary : Store} {start : Instant} (plainStart : start.isLeap = false) {room : ControlRoom}
  (ready : start? settings replica primary start = some room)
  {events : List (Instant × Event)} (plain : ∀ event ∈ events, event.1.isLeap = false)

include ready

theorem live_policy : (room.live events).controller.policy = .ofSettings settings := by
  rw [(live_paired (start?_complete ready) events).policy, (start?_fresh ready).1]
  rfl

theorem live_listed {id : IntersectionId} {cell : Cell}
    (found : (room.live events).controller.cell? id = some cell) : id ∈ settings.intersections := by
  have there := (live_paired (start?_complete ready) events).present id
  rw [found, (start?_fresh ready).1, Controller.cell?_ofSettings] at there
  by_contra unlisted
  simp [unlisted] at there

theorem live_once : (room.live events).controller.names.Nodup := by
  rw [live_names (start?_complete ready), (start?_fresh ready).1, Controller.names_ofSettings]
  exact Grid.distinct_nodup [] _

include plainStart plain

theorem live_plain :
    ∀ id cell, (room.live events).controller.cell? id = some cell → cell.signal.Plain := by
  refine live_cells (start?_complete ready) (fun now => now.isLeap = false) ?_ ?_ events plain
  · exact fun id now plainNow a c first => Cell.act_plain id a first plainNow
  · intro id cell found
    rw [(start?_fresh ready).1, Controller.cell?_ofSettings] at found
    split at found
    · cases found
      intro anchor member
      cases member
      exact plainStart
    · cases found

include valid

/-- A sweep brings the whole grid up to date at once. -/
theorem sweep_settles {now : Instant} (plainNow : now.isLeap = false)
    (fits : (now.add? (.seconds settings.timings.extensionSeconds)).isSome)
    (few : ∀ id cell, (room.live events).controller.cell? id = some cell →
      ∀ anchor ∈ cell.signal.anchor?,
        Signal.cyclesBetween settings.timings.cycleSeconds anchor now < 2 ^ 31) :
    let s := room.live events
    ∃ n s', s.sweep now = .ok (n, s') ∧
      (∀ id ∈ settings.intersections, ∃ before after,
        s.controller.cell? id = some before ∧ s'.controller.cell? id = some after ∧
          before.Swept (Signal.cycleSpan settings.timings.cycleSeconds) now after) ∧
      s'.sweep now = .ok (0, s') := by
  intro s
  have complete : s.controller.Complete settings := live_complete (start?_complete ready) events
  have policy : s.controller.policy = .ofSettings settings := live_policy ready
  have timings : s.controller.policy.timings = settings.timings := congrArg Policy.timings policy
  have span : s.controller.policy.cycle = Signal.cycleSpan settings.timings.cycleSeconds := by
    rw [Policy.cycle, timings]
  have inside : now.isFinalLeap = false := by simp [Instant.isFinalLeap, plainNow]
  have swept : ∀ id cell, s.controller.cell? id = some cell →
      cell.Swept s.controller.policy.cycle now (cell.sweep s.controller.policy id now).cell := by
    intro id cell found
    refine Cell.sweep_swept id (fun anchor member => ?_) plainNow ?_
    · have behind := few id cell found anchor member
      rw [timings, Signal.maxPhases]
      exact ⟨live_plain plainStart ready plain id cell found anchor member, by omega⟩
    · rw [timings]
      exact Instant.lt_after (Settings.timings_positive valid).1 fits
  obtain ⟨n, s', done, each, again⟩ := sweep_twice inside (live_once ready)
    (fun id cell found => complete.grid ▸ live_listed ready found) swept
  refine ⟨n, s', done, fun id known => ?_, again⟩
  obtain ⟨cell, found⟩ := Option.isSome_iff_exists.mp (complete.present id (complete.grid ▸ known))
  obtain ⟨after, there, settled⟩ := each id cell found
  exact ⟨cell, after, found, there, span ▸ settled⟩

end

theorem sweep_settles_after_wave :
    let settings : Settings := { rows := ["A"], columns := [1, 2] }
    let events : List (Instant × Event) :=
      [(Instant.epoch.after 1,
          .operation (.reading ⟨"INT-A1", "CAM-A1", Instant.epoch.after 1, .queue 20 10.0⟩)),
        (Instant.epoch.after 2, .operation (.wave (.row "A") "ambulance" "operator"))]
    ∃ room n s',
      start? settings (.log { name := "replica" }) (.log { name := "primary" }) .epoch = some room ∧
        (room.live events).sweep (Instant.epoch.after 80) = .ok (n, s') ∧
        s'.controller.cells.map (fun p => (p.1, p.2.signal.mode)) =
          [("INT-A1", .timed (Instant.epoch.after 90) .congestion), ("INT-A2", .cycling)] ∧
        s'.sweep (Instant.epoch.after 80) = .ok (0, s') := by
  intro settings events
  have ready := @start?_onLogs settings (by decide) .epoch
  have few : ∀ id ∈ settings.intersections,
      ((((onLogs settings .epoch).live events).controller.cell? id).all fun cell =>
        cell.signal.anchor?.all fun anchor =>
          decide (Signal.cyclesBetween settings.timings.cycleSeconds anchor (Instant.epoch.after 80) <
            2 ^ 31)) = true := by
    decide +kernel
  obtain ⟨n, s', swept, _, again⟩ := @sweep_settles settings (by decide +kernel) _ _ .epoch rfl _ ready
    events (by decide) (Instant.epoch.after 80) (by decide) (by decide) (by
      intro id cell found anchor member
      have near := few id (live_listed ready found)
      rw [found, Option.all_some, Option.mem_def.mp member, Option.all_some] at near
      exact of_decide_eq_true near)
  have modes : (((onLogs settings .epoch).live events).sweep (Instant.epoch.after 80)).toOption.map
      (fun r => r.2.controller.cells.map fun p => (p.1, p.2.signal.mode)) =
      some [("INT-A1", .timed (Instant.epoch.after 90) .congestion), ("INT-A2", .cycling)] := by
    decide +kernel
  rw [swept] at modes
  exact ⟨_, n, s', ready, swept, Option.some.inj modes, again⟩

end ControlRoom

end Signalgrid
