import Signalgrid.Proofs.Control.Operations
import Signalgrid.Proofs.Control.Passes

set_option autoImplicit false

namespace Signalgrid

structure Cell.Coupled (c : Cell) : Prop where
  -- Green waves have an expiry, and nothing else has.
  expiry : c.traffic.expiresAt.isSome ↔ c.traffic.kind = .greenWave
  priority : ∀ deadline, c.signal.mode = .timed deadline .priority →
    c.traffic.kind = .greenWave ∧ c.traffic.expiresAt = some deadline
  congestion : ∀ deadline, c.signal.mode = .timed deadline .congestion → c.traffic.kind = .congestion
  -- What an operator holds has no timer.
  unmanned : ∀ deadline, c.signal.mode ≠ .timed deadline .manual
  green : ∀ deadline cause, c.signal.mode = .timed deadline cause → c.signal.color = .green

namespace Signal

def UpToDate (s : Signal) (now : Instant) : Prop :=
  ∀ deadline cause, s.mode = .timed deadline cause → now < deadline

def Untimed (s : Signal) : Prop := ∀ deadline cause, s.mode ≠ .timed deadline cause

theorem tick_timer (cycle : Span) (id : IntersectionId) (s : Signal) (now : Instant) :
    (s.UpToDate now ∧ (s.tick cycle id now).1 = s) ∨ (s.tick cycle id now).1.Untimed := by
  cases mode : s.mode with
  | cycling =>
    right
    intro deadline cause
    simp [tick_cycling cycle id mode, turn_mode, mode]
  | held =>
    right
    intro deadline cause
    simp [tick_held cycle id mode, mode]
  | timed deadline cause =>
    by_cases early : now < deadline
    · left
      refine ⟨?_, by rw [tick_early cycle id mode early]⟩
      intro other otherCause same
      rw [mode] at same
      cases same
      exact early
    · right
      intro other otherCause
      rw [tick_late cycle id mode early, turn_mode]
      simp [lapsed]

theorem tick_upToDate (cycle : Span) (id : IntersectionId) (s : Signal) (now : Instant) :
    (s.tick cycle id now).1.UpToDate now := by
  rcases s.tick_timer cycle id now with ⟨current, same⟩ | untimed
  · rw [same]
    exact current
  · intro deadline cause mode
    exact absurd mode (untimed deadline cause)

theorem resume_untimed (s : Signal) (now : Instant) : (s.resume now).Untimed := by
  intro deadline cause
  unfold resume
  split
  next cycling => simp [cycling]
  next => simp

end Signal

namespace Cell

theorem coupled_untimed {c : Cell} (expiry : c.traffic.expiresAt.isSome ↔ c.traffic.kind = .greenWave)
    (untimed : c.signal.Untimed) : c.Coupled where
  expiry := expiry
  priority deadline mode := absurd mode (untimed deadline _)
  congestion deadline mode := absurd mode (untimed deadline _)
  unmanned deadline := untimed deadline _
  green deadline cause mode := absurd mode (untimed deadline cause)

theorem start_coupled (now : Instant) : (start now).Coupled :=
  coupled_untimed (by simp [start, Traffic.start]) (by intro deadline cause; simp [start, Signal.start])

theorem command_coupled (c : Cell) {o : Command} {n : Nat} (timed : o.seconds = some n)
    (target : o.target = .green)
    (expiry : c.traffic.expiresAt.isSome ↔ c.traffic.kind = .greenWave)
    (fit : (o.cause = .congestion ∧ c.traffic.kind = .congestion) ∨
      (o.cause = .priority ∧ c.traffic.kind = .greenWave ∧
        c.traffic.expiresAt = some (o.issuedAt.after n))) :
    ({ c with signal := (c.signal.apply o).1 } : Cell).Coupled := by
  rcases fit with ⟨cause, kind⟩ | ⟨cause, kind, expires⟩
  · constructor <;> simp_all [Signal.Command.mode]
  · constructor <;> simp_all [Signal.Command.mode]

theorem waveOver_untimed {c : Cell} {now : Instant} (coupled : c.Coupled)
    (current : c.signal.UpToDate now) (wave : c.traffic.kind = .greenWave)
    (ended : c.traffic.waveActive now = false) : c.signal.Untimed := by
  intro deadline cause mode
  have running := current deadline cause mode
  cases cause with
  | congestion => simp [coupled.congestion deadline mode] at wave
  | priority => simp [Traffic.waveActive, coupled.priority deadline mode, running] at ended
  | manual => exact coupled.unmanned deadline mode

theorem idle_untimed {c : Cell} {now : Instant} (coupled : c.Coupled)
    (current : c.signal.UpToDate now) (congested : c.traffic.kind = .congestion)
    (idle : c.signal.extending now = false) : c.signal.Untimed := by
  intro deadline cause mode
  have running := current deadline cause mode
  cases cause with
  | congestion => simp [Signal.extending, mode, running] at idle
  | priority => simp [coupled.priority deadline mode] at congested
  | manual => exact coupled.unmanned deadline mode

end Cell

namespace Pass

variable {p : Pass} (policy : Policy) (id : IntersectionId) (now : Instant)

theorem tick_coupled (coupled : p.cell.Coupled) : (p.tick policy id now).cell.Coupled := by
  rw [tick_cell]
  rcases p.cell.signal.tick_timer policy.cycle id now with ⟨_, same⟩ | untimed
  · rw [same]
    exact coupled
  · exact Cell.coupled_untimed coupled.expiry untimed

theorem tick_upToDate (p : Pass) : (p.tick policy id now).cell.signal.UpToDate now := by
  rw [tick_cell]
  exact p.cell.signal.tick_upToDate policy.cycle id now

theorem evaluate_coupled (coupled : p.cell.Coupled) (current : p.cell.signal.UpToDate now) :
    (p.evaluate policy id now).1.cell.Coupled := by
  have judged := p.cell.traffic.evaluate_judged policy id p.cell.snapshot
    (p.cell.signal.extending now) now
  generalize policy.thresholds.judge p.cell.snapshot = verdict at judged
  generalize decided : p.cell.traffic.evaluate policy id p.cell.snapshot (p.cell.signal.extending now)
    now = outcome at judged
  cases judged with
  | unmoved =>
    rw [evaluate_unmoved decided]
    exact coupled
  | waveOver _ wave ended =>
    have untimed := Cell.waveOver_untimed coupled current wave ended
    cases verdict with
    | congestion =>
      rw [evaluate_extension decided]
      exact Cell.command_coupled { p.cell with traffic := ⟨.congestion, now, none⟩ } rfl rfl (by simp)
        (.inl ⟨rfl, rfl⟩)
    | normal =>
      rw [evaluate_calm decided]
      exact Cell.coupled_untimed (by simp) untimed
    | inconclusive =>
      rw [evaluate_calm decided]
      exact Cell.coupled_untimed (by simp) untimed
  | detected normal =>
    rw [evaluate_extension decided]
    exact Cell.command_coupled { p.cell with traffic := ⟨.congestion, now, none⟩ } rfl rfl (by simp)
      (.inl ⟨rfl, rfl⟩)
  | persisting congested idle =>
    rw [evaluate_extension decided]
    exact Cell.command_coupled p.cell rfl rfl coupled.expiry (.inl ⟨rfl, congested⟩)
  | relieved congested =>
    have untimed : (if p.cell.signal.extending now then p.cell.signal.resume now
        else p.cell.signal).Untimed := by
      split
      next => exact p.cell.signal.resume_untimed now
      next idle => exact Cell.idle_untimed coupled current congested (by simpa using idle)
    rw [evaluate_calm decided]
    exact Cell.coupled_untimed (by simp) untimed

end Pass

namespace Cell

variable {c : Cell} (policy : Policy) (id : IntersectionId) (now : Instant)

theorem Coupled.observing (coupled : c.Coupled) (s : Snapshot) :
    ({ c with snapshot := s } : Cell).Coupled :=
  ⟨coupled.expiry, coupled.priority, coupled.congestion, coupled.unmanned, coupled.green⟩

theorem ingest_coupled (r : Reading) (coupled : c.Coupled) : (c.ingest policy now r).1.cell.Coupled := by
  have ticked := Pass.tick_coupled (p := { cell := { c with snapshot := c.snapshot.fold r } }) policy
    r.intersection now (coupled.observing _)
  simp only [ingest]
  split
  next =>
    exact Pass.evaluate_coupled policy r.intersection now ticked
      (Pass.tick_upToDate policy r.intersection now _)
  next => exact ticked

theorem sweep_coupled (coupled : c.Coupled) : (c.sweep policy id now).cell.Coupled := by
  have ticked := Pass.tick_coupled (p := { cell := c }) policy id now coupled
  simp only [sweep]
  split
  next => exact Pass.evaluate_coupled policy id now ticked (Pass.tick_upToDate policy id now _)
  next => exact ticked

theorem wave_coupled (reason : String) : (c.wave policy id reason now).cell.Coupled := by
  rw [wave_cell]
  exact command_coupled { c with
    traffic := ⟨.greenWave, now, some (now.after policy.timings.waveSeconds)⟩
    signal := (c.signal.tick policy.cycle id now).1 } rfl rfl (by simp) (.inr ⟨rfl, rfl, rfl⟩)

theorem hold_coupled (color : Color) (coupled : c.Coupled) :
    (c.hold policy id color now).1.cell.Coupled := by
  rw [hold_cell]
  exact coupled_untimed coupled.expiry (by intro deadline cause; simp [Signal.Command.mode])

theorem stall_coupled (seen : Option Reading) (coupled : c.Coupled) : (c.stall now seen).cell.Coupled := by
  rcases c.signal.lapse_cases now with same | ⟨deadline, _, _, _, lapsed⟩
  · simp only [stall, same]
    exact coupled.observing _
  · simp only [stall, lapsed]
    exact coupled_untimed coupled.expiry (by intro other cause; simp [Signal.lapsed])

theorem act_coupled (a : CellAct) (coupled : c.Coupled) : (c.act policy id now a).cell.Coupled := by
  cases a with
  | ingest r => exact ingest_coupled policy now r coupled
  | sweep => exact sweep_coupled policy id now coupled
  | wave reason => exact wave_coupled policy id now reason
  | hold color => exact hold_coupled policy id now color coupled
  | stall seen => exact stall_coupled now seen coupled

end Cell

namespace ControlRoom

def Coupled (s : ControlRoom) : Prop := ∀ id cell, s.controller.cell? id = some cell → cell.Coupled

theorem start?_coupled {settings : Settings} {replica primary : Store} {start : Instant}
    {s : ControlRoom} (ready : start? settings replica primary start = some s) : s.Coupled := by
  simp only [start?, Option.map_eq_some_iff] at ready
  obtain ⟨archive, _, rfl⟩ := ready
  intro id cell found
  rw [Controller.cell?_ofSettings] at found
  split at found
  next =>
    cases found
    exact Cell.start_coupled start
  next => cases found

theorem perform_coupled {s : ControlRoom} (now : Instant) (op : Operation) (coupled : s.Coupled) :
    (s.perform now op).Coupled := by
  intro id cell found
  rw [perform_cell?, Option.map_eq_some_iff] at found
  obtain ⟨before, held, rfl⟩ := found
  exact Cell.undergo_keeps _ (fun a _ _ => Cell.act_coupled s.controller.policy id now a)
    (coupled id before held)

theorem run_coupled {settings : Settings} {replica primary : Store} {start : Instant} {s : ControlRoom}
    (ready : start? settings replica primary start = some s) (steps : List (Instant × Operation)) :
    (s.run steps).Coupled := by
  have coupled := start?_coupled ready
  -- A step keeps the coupling of any state, not only of those that can be reached.
  clear ready
  induction steps generalizing s with
  | nil => exact coupled
  | cons step rest ih => exact ih (perform_coupled step.1 step.2 coupled)

theorem run_coupled_through_wave :
    ∃ s, start? { rows := ["A"], columns := [1] } (.log { name := "replica" })
        (.log { name := "primary" }) .epoch = some s ∧
      ∃ cell, (s.run
          [(Instant.epoch.after 5, .wave (.row "A") "ambulance" "operator"),
            (Instant.epoch.after 2, .sweep),
            (Instant.epoch.after 36, .hold "INT-A1" .red "operator")]).controller.cell? "INT-A1" =
          some cell ∧ cell.Coupled := by
  refine ⟨_, rfl, _, rfl, ?_⟩
  exact @run_coupled { rows := ["A"], columns := [1] } (.log { name := "replica" })
    (.log { name := "primary" }) .epoch _ rfl
    [(Instant.epoch.after 5, .wave (.row "A") "ambulance" "operator"),
      (Instant.epoch.after 2, .sweep),
      (Instant.epoch.after 36, .hold "INT-A1" .red "operator")] "INT-A1" _ rfl

end ControlRoom

end Signalgrid
