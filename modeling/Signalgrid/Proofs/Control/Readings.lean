import Signalgrid.Proofs.Control.Coupling
import Signalgrid.Proofs.Control.History
import Signalgrid.Proofs.Settings.Checks

set_option autoImplicit false

namespace Signalgrid

theorem Signal.extending_iff {s : Signal} {now : Instant} :
    s.extending now = true ↔ ∃ deadline, s.mode = .timed deadline .congestion ∧ now < deadline := by
  unfold extending
  split
  next deadline mode => simp [mode]
  next other =>
    simp only [Bool.false_eq_true, false_iff, not_exists, not_and]
    exact fun deadline mode => absurd mode (other deadline)

namespace Traffic

def Suits (t : Traffic) (extending : Bool) : Verdict → Prop
  | .congestion => t.kind = .congestion ∧ extending = true
  | .normal => t.kind = .normal
  | .inconclusive => t.kind ≠ .greenWave

theorem evaluate_suits {p : Policy} {id : IntersectionId} {t traffic : Traffic} {s : Snapshot}
    {extending : Bool} {now : Instant} (ended : t.waveActive now = false)
    (unmoved : t.evaluate p id s extending now = (traffic, none)) :
    t.Suits extending (p.thresholds.judge s) := by
  unfold evaluate at unmoved
  cases verdict : p.thresholds.judge s <;> cases kind : t.kind <;> cases extending <;>
    simp_all [Suits, leaveWave]

end Traffic

def Cell.Settles (before : Cell) (now : Instant) (after : Cell) : Verdict → Prop
  | .congestion =>
      after.traffic.kind = .congestion ∧ after.signal.color = .green ∧
        ∃ deadline, after.signal.mode = .timed deadline .congestion ∧ now < deadline
  | .normal =>
      after.traffic.kind = .normal ∧ (∀ deadline, after.signal.mode ≠ .timed deadline .congestion) ∧
        (before.signal.extending now = true →
          after.signal = { before.signal with mode := .cycling, phaseStart := now })
  | .inconclusive =>
      after.traffic.kind = if before.traffic.kind = .greenWave then .normal else before.traffic.kind

namespace Pass

variable {p : Pass} {policy : Policy} {id : IntersectionId} {now : Instant}

theorem evaluate_extended {traffic : Traffic} {previous : TrafficKind} {details : String}
    (ahead : now < now.after policy.timings.extensionSeconds) (congested : traffic.kind = .congestion)
    (decided : p.cell.traffic.evaluate policy id p.cell.snapshot (p.cell.signal.extending now) now =
      (traffic, some (Traffic.extension policy id previous now details))) (before : Cell) :
    before.Settles now (p.evaluate policy id now).1.cell .congestion := by
  rw [evaluate_extension decided]
  refine ⟨congested, Signal.apply_color .., _, Signal.apply_mode .., ahead⟩

theorem evaluate_settles (coupled : p.cell.Coupled) (current : p.cell.signal.UpToDate now)
    (ended : p.cell.traffic.waveActive now = false)
    (ahead : now < now.after policy.timings.extensionSeconds) :
    p.cell.Settles now (p.evaluate policy id now).1.cell (policy.thresholds.judge p.cell.snapshot) := by
  have coupled' := Pass.evaluate_coupled policy id now coupled current
  -- Only congested traffic can have an extension that runs.
  have extension : p.cell.signal.extending now = true → p.cell.traffic.kind = .congestion := by
    intro running
    obtain ⟨deadline, mode, _⟩ := Signal.extending_iff.mp running
    exact coupled.congestion deadline mode
  have calmed : (p.evaluate policy id now).1.cell.traffic.kind = .normal →
      ∀ deadline, (p.evaluate policy id now).1.cell.signal.mode ≠ .timed deadline .congestion := by
    intro normal deadline mode
    rw [coupled'.congestion deadline mode] at normal
    cases normal
  have judged := p.cell.traffic.evaluate_judged policy id p.cell.snapshot
    (p.cell.signal.extending now) now
  generalize rules : policy.thresholds.judge p.cell.snapshot = verdict at judged ⊢
  generalize decided : p.cell.traffic.evaluate policy id p.cell.snapshot (p.cell.signal.extending now)
    now = outcome at judged
  cases judged with
  | unmoved =>
    have suits := rules ▸ Traffic.evaluate_suits ended decided
    rw [evaluate_unmoved decided] at calmed ⊢
    cases verdict with
    | congestion =>
      obtain ⟨deadline, mode, running⟩ := Signal.extending_iff.mp suits.2
      exact ⟨suits.1, coupled.green deadline _ mode, deadline, mode, running⟩
    | normal =>
      refine ⟨suits, calmed suits, fun running => ?_⟩
      cases suits.symm.trans (extension running)
    | inconclusive => exact (if_neg suits).symm
  | waveOver _ wave =>
    cases verdict with
    | congestion => exact evaluate_extended ahead rfl decided p.cell
    | normal =>
      rw [evaluate_calm decided] at calmed ⊢
      refine ⟨rfl, calmed rfl, fun running => ?_⟩
      cases wave.symm.trans (extension running)
    | inconclusive =>
      rw [evaluate_calm decided]
      exact (if_pos wave).symm
  | detected => exact evaluate_extended ahead rfl decided p.cell
  | persisting congested => exact evaluate_extended ahead congested decided p.cell
  | relieved =>
    rw [evaluate_calm decided] at calmed ⊢
    refine ⟨rfl, calmed rfl, fun running => ?_⟩
    obtain ⟨deadline, mode, _⟩ := Signal.extending_iff.mp running
    simp [running, Signal.resume, mode]

end Pass

namespace Cell

theorem Settles.of_earlier {b c d : Cell} {now : Instant} {verdict : Verdict}
    (settles : c.Settles now d verdict) (kind : c.traffic.kind = b.traffic.kind)
    (signal : b.signal.extending now = true → c.signal = b.signal) : b.Settles now d verdict := by
  cases verdict with
  | congestion => exact settles
  | normal =>
    refine ⟨settles.1, settles.2.1, fun running => ?_⟩
    have same := signal running
    rw [← same] at running ⊢
    exact settles.2.2 running
  | inconclusive =>
    simp only [Settles, kind] at settles
    exact settles

section

variable {c : Cell} {policy : Policy} {now : Instant} {r : Reading}

theorem ingest_settles (renews : (c.snapshot.renewal r).any = true) (coupled : c.Coupled)
    (ended : c.traffic.waveActive now = false)
    (ahead : now < now.after policy.timings.extensionSeconds) :
    c.Settles now (c.ingest policy now r).1.cell (policy.thresholds.judge (c.snapshot.fold r)) := by
  have ticked := Pass.tick_coupled (p := { cell := { c with snapshot := c.snapshot.fold r } }) policy
    r.intersection now (coupled.observing _)
  have settles := @Pass.evaluate_settles _ policy r.intersection now ticked
    (Pass.tick_upToDate policy r.intersection now _) (by simpa using ended) ahead
  simp only [ingest, renews, if_true]
  simp only [Pass.tick_cell] at settles
  apply settles.of_earlier (b := c) rfl
  intro running
  obtain ⟨deadline, mode, early⟩ := Signal.extending_iff.mp running
  exact congrArg Prod.fst (Signal.tick_early policy.cycle r.intersection mode early)

theorem ingest_snapshot : (c.ingest policy now r).1.cell.snapshot = c.snapshot.fold r := by
  simp only [ingest]
  split
  · rw [Pass.evaluate_snapshot, Pass.tick_cell]
  · rw [Pass.tick_cell]

theorem ingest_onWave (active : c.traffic.waveActive now = true) :
    (c.ingest policy now r).2 = none ∧
      (c.ingest policy now r).1.records =
        (c.signal.tick policy.cycle r.intersection now).2.toList.map Record.change := by
  simp only [ingest]
  split
  · rw [Pass.evaluate_unmoved (Traffic.evaluate_waveActive policy r.intersection _ _ _ now
      (by simpa using active))]
    exact ⟨rfl, Pass.note_records _ _ _⟩
  · exact ⟨rfl, Pass.note_records _ _ _⟩

end

def Dated (c : Cell) : Prop := ∀ expiry ∈ c.traffic.expiresAt, expiry.isLeap = false

theorem evaluate_dated {p : Pass} (dated : p.cell.Dated) (policy : Policy) (id : IntersectionId)
    (now : Instant) : (p.evaluate policy id now).1.cell.Dated := by
  have judged := p.cell.traffic.evaluate_judged policy id p.cell.snapshot
    (p.cell.signal.extending now) now
  unfold Dated at *
  rw [Pass.evaluate_traffic]
  generalize policy.thresholds.judge p.cell.snapshot = verdict at judged
  generalize p.cell.traffic.evaluate policy id p.cell.snapshot (p.cell.signal.extending now) now =
    outcome at judged
  cases judged with
  | unmoved => exact dated
  | waveOver => cases verdict <;> simp [Traffic.leaveWave]
  | detected => simp
  | persisting => exact dated
  | relieved => simp

theorem act_dated {policy : Policy} (some : 0 < policy.timings.waveSeconds) (id : IntersectionId)
    (now : Instant) (a : CellAct) (c : Cell) (dated : c.Dated) : (c.act policy id now a).cell.Dated := by
  cases a with
  | ingest r =>
    simp only [act, ingest]
    split
    · exact evaluate_dated (by simpa [Dated] using dated) policy r.intersection now
    · simpa [Dated] using dated
  | sweep =>
    simp only [act, sweep]
    split
    · exact evaluate_dated (by simpa [Dated] using dated) policy id now
    · simpa [Dated] using dated
  | wave reason => simp [act, Dated, Instant.after_isLeap some]
  | hold color => simpa [act, Dated] using dated
  | stall seen => exact dated

end Cell

namespace ControlRoom

variable {s : ControlRoom} {now : Instant} {r : Reading} {cell : Cell}

theorem ingest_completes (found : s.controller.cell? r.intersection = some cell)
    (inside : now.isFinalLeap = false) :
    ∃ outcome s', s.ingest now r = .ok (.ok outcome, s') ∧
      outcome.action = (cell.ingest s.controller.policy now r).2 ∧
      s'.controller.cell? r.intersection = some (cell.ingest s.controller.policy now r).1.cell ∧
      s.left now (.reading r) = .event r :: (cell.ingest s.controller.policy now r).1.records := by
  have done := s.controller.ingest_found now r found
  simp only [left, attempt, undertake, ingest, guardTick_inside s inside, Controller.operate, done]
  refine ⟨_, _, rfl, rfl, ?_, rfl⟩
  rw [install_controller, Controller.cell?_setCell, if_pos rfl, found]
  rfl

section

variable {settings : Settings} (valid : settings.validate.isOk = true)
  {replica primary : Store} {start : Instant} {room : ControlRoom}
  (ready : start? settings replica primary start = some room)

include ready

theorem run_policy (steps : List (Instant × Operation)) :
    (room.run steps).controller.policy = .ofSettings settings := by
  rw [(room.run_paired steps).policy, (start?_fresh ready).1]
  rfl

include valid

theorem run_dated (steps : List (Instant × Operation)) :
    ∀ id cell, (room.run steps).controller.cell? id = some cell → cell.Dated := by
  have policy : room.controller.policy = .ofSettings settings := run_policy ready []
  have some : 0 < room.controller.policy.timings.waveSeconds := by
    rw [policy]
    exact (Settings.timings_positive valid).2
  apply run_cells (Cell.act_dated some)
  intro id cell found
  rw [(start?_fresh ready).1, Controller.cell?_ofSettings] at found
  split at found
  · cases found
    simp [Cell.Dated, Cell.start, Traffic.start]
  · cases found

/-- What a reading that is judged makes of its intersection, unless a green wave runs. -/
theorem reading_settles (steps : List (Instant × Operation)) {r : Reading} {cell : Cell}
    (found : (room.run steps).controller.cell? r.intersection = some cell)
    (renews : (cell.snapshot.renewal r).any = true) (now : Instant) :
    let s := room.run steps
    (cell.traffic.waveActive now = false →
      (now.add? (.seconds settings.timings.extensionSeconds)).isSome →
        ∃ outcome s' later, s.ingest now r = .ok (.ok outcome, s') ∧
          s'.controller.cell? r.intersection = some later ∧
          later.snapshot = cell.snapshot.fold r ∧
          cell.Settles now later (settings.thresholds.judge (cell.snapshot.fold r))) ∧
      (cell.traffic.waveActive now = true →
        let ticked := cell.signal.tick s.controller.policy.cycle r.intersection now
        ∃ outcome s', s.ingest now r = .ok (.ok outcome, s') ∧
          s'.controller.cell? r.intersection =
            some { cell with snapshot := cell.snapshot.fold r, signal := ticked.1 } ∧
          outcome.action = none ∧
          s.left now (.reading r) = .event r :: ticked.2.toList.map .change) := by
  intro s
  obtain ⟨extension, wave⟩ := Settings.timings_positive valid
  have policy : s.controller.policy = .ofSettings settings := run_policy ready steps
  constructor
  · intro ended fits
    obtain ⟨outcome, s', done, _, later, _⟩ :=
      ingest_completes found (Instant.isFinalLeap_of_add? extension fits)
    refine ⟨outcome, s', _, done, later, Cell.ingest_snapshot, ?_⟩
    rw [policy]
    exact Cell.ingest_settles renews (run_coupled ready steps _ cell found) ended
      (Instant.lt_after extension fits)
  · intro active
    have inside : now.isFinalLeap = false := by
      have dated := run_dated valid ready steps _ cell found
      simp only [Traffic.waveActive, Bool.and_eq_true, Option.any_eq_true, decide_eq_true_eq] at active
      obtain ⟨_, expiry, expires, early⟩ := active
      exact Instant.isFinalLeap_of_lt (dated expiry expires) early
    obtain ⟨outcome, s', done, action, later, left⟩ := ingest_completes found inside
    obtain ⟨unmoved, records⟩ := @Cell.ingest_onWave cell s.controller.policy now r active
    refine ⟨outcome, s', done, ?_, action.trans unmoved, by rw [left, records]⟩
    rw [later, Cell.ingest_kept _ _ _ _ (.inl active)]

end

theorem reading_settles_calling_off :
    let settings : Settings := { rows := ["A"], columns := [1] }
    let steps : List (Instant × Operation) :=
      [(Instant.epoch.after 1, .reading ⟨"INT-A1", "GPS-A1", Instant.epoch.after 1, .density 60.0 .low⟩),
        (Instant.epoch.after 2, .reading ⟨"INT-A1", "CAM-A1", Instant.epoch.after 2, .queue 20 60.0⟩)]
    let r : Reading := ⟨"INT-A1", "CAM-A1", Instant.epoch.after 5, .queue 2 60.0⟩
    ∃ room outcome s' cell later,
      start? settings (.log { name := "replica" }) (.log { name := "primary" }) .epoch = some room ∧
        (room.run steps).controller.cell? "INT-A1" = some cell ∧
        cell.signal.mode = .timed (Instant.epoch.after 12) .congestion ∧
        (room.run steps).ingest (Instant.epoch.after 5) r = .ok (.ok outcome, s') ∧
        s'.controller.cell? "INT-A1" = some later ∧ later.traffic.kind = .normal ∧
        later.signal = ⟨.green, Instant.epoch.after 2, .cycling, Instant.epoch.after 5⟩ := by
  intro settings steps r
  have before : (((onLogs settings .epoch).run steps).controller.cell? "INT-A1").map (fun cell =>
      ((cell.snapshot.renewal r).any, settings.thresholds.judge (cell.snapshot.fold r), cell.traffic.kind,
        cell.signal)) =
      some (true, .normal, .congestion, ⟨.green, Instant.epoch.after 2,
        .timed (Instant.epoch.after 12) .congestion, Instant.epoch.after 2⟩) := by decide +kernel
  obtain ⟨cell, found, facts⟩ := Option.map_eq_some_iff.mp before
  simp only [Prod.mk.injEq] at facts
  obtain ⟨renews, verdict, kind, signal⟩ := facts
  obtain ⟨outcome, s', later, done, there, _, settled⟩ := (@reading_settles settings (by decide +kernel)
    (.log { name := "replica" }) (.log { name := "primary" }) .epoch _ (start?_onLogs (by decide) _)
    steps r cell found renews (Instant.epoch.after 5)).1 (by simp [Traffic.waveActive, kind]) (by decide)
  rw [verdict] at settled
  obtain ⟨normal, _, restarted⟩ := settled
  have running : cell.signal.extending (Instant.epoch.after 5) = true := by
    rw [signal]
    decide
  refine ⟨_, outcome, s', cell, later, start?_onLogs (by decide) _, found, by rw [signal], done, there,
    normal, ?_⟩
  rw [restarted running, signal]

end ControlRoom

end Signalgrid
