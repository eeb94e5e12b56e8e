import Signalgrid.Control.Cell
import Signalgrid.Proofs.Control.Ticks

set_option autoImplicit false

namespace Signalgrid

inductive Traffic.Judged (p : Policy) (id : IntersectionId) (t : Traffic) (extending : Bool) (now : Instant) :
    Verdict → Traffic × Option Evaluation → Prop where
  | unmoved (v : Verdict) : Judged p id t extending now v (t, none)
  | waveOver (v : Verdict) (wave : t.kind = .greenWave) (ended : t.waveActive now = false) :
      Judged p id t extending now v (leaveWave p id v now)
  | detected (normal : t.kind = .normal) :
      Judged p id t extending now .congestion
        (⟨.congestion, now, none⟩, some (extension p id t.kind now "congestion detected"))
  | persisting (congested : t.kind = .congestion) (idle : extending = false) :
      Judged p id t extending now .congestion
        (t, some (extension p id t.kind now "congestion persists"))
  | relieved (congested : t.kind = .congestion) :
      Judged p id t extending now .normal
        (⟨.normal, now, none⟩, some (calm t.kind extending "traffic back to normal"))

namespace Traffic

variable (p : Policy) (id : IntersectionId) (t : Traffic) (s : Snapshot) (extending : Bool) (now : Instant)

theorem evaluate_judged :
    t.Judged p id extending now (p.thresholds.judge s) (t.evaluate p id s extending now) := by
  unfold evaluate
  generalize p.thresholds.judge s = verdict
  by_cases wave : t.kind = .greenWave
  · cases active : t.waveActive now with
    | true => simpa [wave] using Judged.unmoved verdict
    | false => simpa [wave] using Judged.waveOver verdict wave active
  · simp only [wave, if_false]
    cases verdict with
    | congestion =>
      by_cases congested : t.kind = .congestion
      · cases extending with
        | true => simpa [congested] using Judged.unmoved .congestion
        | false => simpa [congested] using Judged.persisting congested rfl
      · have normal : t.kind = .normal := by cases kind : t.kind <;> simp_all
        simpa [normal] using Judged.detected normal
    | normal =>
      by_cases normal : t.kind = .normal
      · simpa [normal] using Judged.unmoved .normal
      · have congested : t.kind = .congestion := by cases kind : t.kind <;> simp_all
        simpa [congested] using Judged.relieved congested
    | inconclusive => exact .unmoved _

theorem evaluate_none {traffic : Traffic} (undecided : t.evaluate p id s extending now = (traffic, none)) :
    traffic = t := by
  have judged := t.evaluate_judged p id s extending now
  generalize p.thresholds.judge s = verdict at judged
  rw [undecided] at judged
  generalize outcome : (traffic, (none : Option Evaluation)) = decided at judged
  cases judged with
  | unmoved => exact congrArg Prod.fst outcome
  | waveOver => cases verdict <;> cases outcome
  | detected => cases outcome
  | persisting => cases outcome
  | relieved => cases outcome

theorem evaluate_waveActive (active : t.waveActive now = true) :
    t.evaluate p id s extending now = (t, none) := by
  have wave : t.kind = .greenWave := by
    simp only [waveActive, Bool.and_eq_true, decide_eq_true_eq] at active
    exact active.1
  simp [evaluate, wave, active]

theorem evaluate_waveOver (wave : t.kind = .greenWave) (ended : t.waveActive now = false) :
    t.evaluate p id s extending now = leaveWave p id (p.thresholds.judge s) now := by
  simp [evaluate, wave, ended]

end Traffic

namespace Pass

variable (p : Pass) (policy : Policy) (id : IntersectionId) (now : Instant)

@[simp] theorem note_cell (signal : Signal) (t : Option Transition) :
    (p.note signal t).cell = { p.cell with signal := signal } := by
  cases t <;> rfl

theorem note_records (signal : Signal) (change : Option Transition) :
    (p.note signal change).records = p.records ++ change.toList.map Record.change := by
  cases change <;> simp [note]

@[simp] theorem tick_cell :
    (p.tick policy id now).cell =
      { p.cell with signal := (p.cell.signal.tick policy.cycle id now).1 } := by
  simp [tick]

@[simp] theorem command_cell (c : Command) :
    (p.command c).1.cell = { p.cell with signal := (p.cell.signal.apply c).1 } := by
  simp [command]

@[simp] theorem settle_cell (traffic : Traffic) (e : Evaluation) :
    (p.settle traffic e).cell = { p.cell with traffic := traffic } := rfl

@[simp] theorem resume_cell :
    (p.resume now).cell = { p.cell with signal := p.cell.signal.resume now } := rfl

@[simp] theorem decide_cell (e : Evaluation) (details : String) :
    (p.decide id e details now).cell = p.cell := rfl

@[simp] theorem obey_snapshot (command : Option Command) :
    (p.obey command).cell.snapshot = p.cell.snapshot := by
  cases command <;> simp [obey]

@[simp] theorem obey_traffic (command : Option Command) :
    (p.obey command).cell.traffic = p.cell.traffic := by
  cases command <;> simp [obey]

theorem evaluate_snapshot : (p.evaluate policy id now).1.cell.snapshot = p.cell.snapshot := by
  simp only [evaluate]
  split
  next => rfl
  next => split <;> simp

theorem evaluate_traffic :
    (p.evaluate policy id now).1.cell.traffic =
      (p.cell.traffic.evaluate policy id p.cell.snapshot (p.cell.signal.extending now) now).1 := by
  simp only [evaluate]
  split
  next judged => rw [judged, p.cell.traffic.evaluate_none policy id _ _ now judged]
  next judged => split <;> simp [judged]

section

variable {p policy id now}

theorem evaluate_unmoved {traffic : Traffic}
    (judged : p.cell.traffic.evaluate policy id p.cell.snapshot (p.cell.signal.extending now) now =
      (traffic, none)) : p.evaluate policy id now = (p, none) := by
  simp only [evaluate, judged]

theorem evaluate_extension {traffic : Traffic} {previous : TrafficKind} {details : String}
    (judged : p.cell.traffic.evaluate policy id p.cell.snapshot (p.cell.signal.extending now) now =
      (traffic, some (Traffic.extension policy id previous now details))) :
    (p.evaluate policy id now).1.cell =
      { p.cell with
        traffic := traffic
        signal := (p.cell.signal.apply
          ⟨id, .green, .congestion, some policy.timings.extensionSeconds, now⟩).1 } := by
  simp [evaluate, judged, Traffic.extension, obey]

theorem evaluate_extension_records {traffic : Traffic} {previous : TrafficKind} {details : String}
    (judged : p.cell.traffic.evaluate policy id p.cell.snapshot (p.cell.signal.extending now) now =
      (traffic, some (Traffic.extension policy id previous now details))) :
    .change ⟨id, p.cell.signal.color, .green, Cause.congestion.label,
      some (now.after policy.timings.extensionSeconds), now⟩ ∈ (p.evaluate policy id now).1.records := by
  have changed := p.cell.signal.apply_timed
    (c := ⟨id, .green, .congestion, some policy.timings.extensionSeconds, now⟩) rfl
  simp [evaluate, judged, Traffic.extension, obey, decide, command, settle, note, changed]

theorem evaluate_calm {traffic : Traffic} {previous : TrafficKind} {resume : Bool} {details : String}
    (judged : p.cell.traffic.evaluate policy id p.cell.snapshot (p.cell.signal.extending now) now =
      (traffic, some (Traffic.calm previous resume details))) :
    (p.evaluate policy id now).1.cell =
      { p.cell with
        traffic := traffic
        signal := if resume then p.cell.signal.resume now else p.cell.signal } := by
  cases resume <;> simp [evaluate, judged, Traffic.calm, obey]

end

theorem evaluate_signal :
    let signal := (p.evaluate policy id now).1.cell.signal
    signal = p.cell.signal ∨ signal = p.cell.signal.resume now ∨
      signal = (p.cell.signal.apply
        ⟨id, .green, .congestion, some policy.timings.extensionSeconds, now⟩).1 := by
  intro signal
  have judged := p.cell.traffic.evaluate_judged policy id p.cell.snapshot
    (p.cell.signal.extending now) now
  generalize policy.thresholds.judge p.cell.snapshot = verdict at judged
  generalize decided : p.cell.traffic.evaluate policy id p.cell.snapshot (p.cell.signal.extending now)
    now = outcome at judged
  cases judged with
  | unmoved => exact .inl (by simp only [signal, evaluate_unmoved decided])
  | waveOver =>
    cases verdict with
    | congestion => exact .inr (.inr (by simp only [signal, evaluate_extension decided]))
    | normal => exact .inl (by simp [signal, evaluate_calm decided])
    | inconclusive => exact .inl (by simp [signal, evaluate_calm decided])
  | detected => exact .inr (.inr (by simp only [signal, evaluate_extension decided]))
  | persisting => exact .inr (.inr (by simp only [signal, evaluate_extension decided]))
  | relieved =>
    cases extending : p.cell.signal.extending now with
    | true => exact .inr (.inl (by simp [signal, evaluate_calm decided, extending]))
    | false => exact .inl (by simp [signal, evaluate_calm decided, extending])

end Pass

namespace Cell

variable (c : Cell) (policy : Policy) (id : IntersectionId) (now : Instant)

@[simp] theorem wave_cell (reason : String) :
    (c.wave policy id reason now).cell =
      { c with
        traffic := ⟨.greenWave, now, some (now.after policy.timings.waveSeconds)⟩
        signal := ((c.signal.tick policy.cycle id now).1.apply
          ⟨id, .green, .priority, some policy.timings.waveSeconds, now⟩).1 } := by
  simp [wave, Traffic.enterWave, Pass.obey]

@[simp] theorem hold_cell (color : Color) :
    (c.hold policy id color now).1.cell =
      { c with
        signal := ((c.signal.tick policy.cycle id now).1.apply
          ⟨id, color, .manual, none, now⟩).1 } := by
  simp only [hold]
  split <;> simp

theorem ingest_kept (r : Reading)
    (kept : c.traffic.waveActive now = true ∨ (c.snapshot.renewal r).any = false) :
    (c.ingest policy now r).1.cell =
      { c with
        snapshot := c.snapshot.fold r
        signal := (c.signal.tick policy.cycle r.intersection now).1 } := by
  simp only [ingest]
  split
  next renews =>
    have active := kept.resolve_right (by simp [renews])
    rw [Pass.evaluate_unmoved (Traffic.evaluate_waveActive policy r.intersection _ _ _ now
      (by simpa using active))]
    simp
  next => simp

theorem sweep_kept (kept : c.traffic.kind ≠ .greenWave ∨ c.traffic.waveActive now = true) :
    (c.sweep policy id now).cell = { c with signal := (c.signal.tick policy.cycle id now).1 } := by
  simp only [sweep, Pass.tick_cell]
  split
  next ended => rcases kept with calm | active <;> simp_all
  next => simp

end Cell

end Signalgrid
