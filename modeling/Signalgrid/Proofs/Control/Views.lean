import Signalgrid.Proofs.Control.Sweeps

set_option autoImplicit false

namespace Signalgrid

namespace Traffic

variable {t : Traffic} {now : Instant}

def Lapsed (t : Traffic) (now : Instant) : Prop := ∃ expiry, t.OnWave expiry ∧ expiry ≤ now

theorem not_lapsed (kept : t.kind ≠ .greenWave ∨ t.waveActive now = true) : ¬ t.Lapsed now := by
  rintro ⟨expiry, wave, late⟩
  rcases kept with calm | active
  · exact calm wave.1
  · rw [wave.ended late] at active
    cases active

theorem unlapsed_cases (expiry : t.expiresAt.isSome ↔ t.kind = .greenWave) (kept : ¬ t.Lapsed now) :
    t.kind ≠ .greenWave ∨ t.waveActive now = true := by
  by_cases wave : t.kind = .greenWave
  · obtain ⟨e, expires⟩ := Option.isSome_iff_exists.mp (expiry.mpr wave)
    have early : now < e := by
      by_contra late
      exact kept ⟨e, ⟨wave, expires⟩, not_lt.mp late⟩
    exact .inr (OnWave.active ⟨wave, expires⟩ early)
  · exact .inl wave

end Traffic

namespace Cell

variable {c : Cell} (policy : Policy) (id : IntersectionId) {now : Instant}

theorem sweep_lapsed (lapsed : c.traffic.Lapsed now) :
    (c.sweep policy id now).cell.traffic.kind ≠ .greenWave := by
  obtain ⟨expiry, wave, late⟩ := lapsed
  exact (sweep_released policy id wave late).not_wave

theorem sweeps_kept (kept : c.traffic.kind ≠ .greenWave ∨ c.traffic.waveActive now = true) (n : Nat) :
    (c.undergo policy id now (List.replicate n .sweep)).1.traffic = c.traffic := by
  induction n generalizing c with
  | zero => rfl
  | succ n ih =>
    have once : (c.sweep policy id now).cell.traffic = c.traffic := by rw [c.sweep_kept policy id now kept]
    rw [List.replicate_succ, undergo, act]
    exact (ih (once ▸ kept)).trans once

theorem sweeps_current (kept : c.traffic.kind ≠ .greenWave ∨ c.traffic.waveActive now = true)
    (current : c.signal.Current policy.cycle now) (n : Nat) :
    (c.undergo policy id now (List.replicate n .sweep)).1 = c := by
  have settled : c.Settled policy.cycle now := by
    refine ⟨fun wave => ?_, current.1, current.2⟩
    have active := kept.resolve_left (not_not_intro wave)
    simp only [Traffic.waveActive, Bool.and_eq_true, Option.any_eq_true, decide_eq_true_eq] at active
    exact active.2
  rw [settled.sweeps id n]

theorem Coupled.sweep_kept (coupled : c.Coupled) (now : Instant) :
    (c.sweep policy id now).cell.traffic.kind ≠ .greenWave ∨
      (c.sweep policy id now).cell.traffic.waveActive now = true := by
  by_cases lapsed : c.traffic.Lapsed now
  · exact .inl (sweep_lapsed policy id lapsed)
  · have kept := Traffic.unlapsed_cases coupled.expiry lapsed
    rwa [c.sweep_kept policy id now kept]

end Cell

namespace View

def Consistent (v : View) : Prop :=
  v.traffic.kind = .greenWave → ∃ expiry, v.traffic.expiresAt = some expiry ∧ v.asOf < expiry

structure Tells (v : View) (cell swept : Cell) : Prop where
  consistent : v.Consistent ↔ ¬ cell.traffic.Lapsed v.asOf
  current : ¬ cell.traffic.Lapsed v.asOf → v.traffic = swept.traffic ∧ v.signal = swept.signal
  lapsed : cell.traffic.Lapsed v.asOf → v.traffic = cell.traffic ∧ swept.traffic.kind ≠ .greenWave

theorem tells {cell : Cell} (coupled : cell.Coupled) (policy : Policy) (id : IntersectionId)
    (now : Instant) :
    Tells ⟨id, cell.traffic, (cell.signal.tick policy.cycle id now).1, cell.snapshot, now⟩ cell
      (cell.sweep policy id now).cell where
  consistent := by
    constructor
    · rintro consistent ⟨expiry, wave, late⟩
      obtain ⟨other, expires, early⟩ := consistent wave.1
      obtain rfl := Option.some.inj (wave.2.symm.trans expires)
      exact not_lt.mpr late early
    · intro kept wave
      obtain ⟨expiry, expires⟩ := Option.isSome_iff_exists.mp (coupled.expiry.mpr wave)
      refine ⟨expiry, expires, ?_⟩
      by_contra late
      exact kept ⟨expiry, ⟨wave, expires⟩, not_lt.mp late⟩
  current kept := by
    rw [cell.sweep_kept policy id now (Traffic.unlapsed_cases coupled.expiry kept)]
    exact ⟨rfl, rfl⟩
  lapsed lapsed := ⟨rfl, Cell.sweep_lapsed policy id lapsed⟩

end View

theorem Controller.view_found {c : Controller} {name : String} {cell : Cell} (now : Instant)
    (listed : name ∈ c.grid.ids) (found : c.cell? name = some cell) :
    c.view now name =
      .ok ⟨name, cell.traffic, (cell.signal.tick c.policy.cycle name now).1, cell.snapshot, now⟩ := by
  simp only [view, resolve_ok_iff.mpr ⟨rfl, listed⟩, need_ok_iff.mpr found, bind, Except.bind]

namespace ControlRoom

theorem live_coupled {settings : Settings} {replica primary : Store} {start : Instant}
    {room : ControlRoom} (ready : start? settings replica primary start = some room)
    (events : List (Instant × Event)) : (room.live events).Coupled :=
  live_cells (start?_complete ready) (fun _ => True)
    (fun id now _ a _ coupled => Cell.act_coupled room.controller.policy id now a coupled)
    (start?_coupled ready) events (fun _ _ => trivial)

-- A cell whose name is configured twice, too far behind for one pass: the sweep goes beyond the view.
example :
    let room := onLogs { rows := ["A", "A1"], columns := [1, 11], timings := { cycleSeconds := 1 } } .epoch
    let now := Instant.epoch.after 2147483648
    ((room.view now "INT-A11").toOption.bind fun r => r.1.toOption).map (·.signal.color) = some .red ∧
      (((room.sweep now).toOption.map Prod.snd).bind (·.controller.cell? "INT-A11")).map (·.signal.color) =
        some .green := by
  decide +kernel

end ControlRoom

end Signalgrid
