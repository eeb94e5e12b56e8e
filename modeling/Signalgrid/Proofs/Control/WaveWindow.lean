import Signalgrid.Proofs.Control.Operations
import Signalgrid.Proofs.Control.Passes
import Mathlib.Data.List.Nodup

set_option autoImplicit false

namespace Signalgrid

namespace Traffic

def OnWave (t : Traffic) (expiry : Instant) : Prop := t.kind = .greenWave ∧ t.expiresAt = some expiry

theorem OnWave.active {t : Traffic} {expiry now : Instant} (wave : t.OnWave expiry)
    (early : now < expiry) : t.waveActive now = true := by
  simp [waveActive, wave.1, wave.2, early]

theorem OnWave.ended {t : Traffic} {expiry now : Instant} (wave : t.OnWave expiry)
    (late : expiry ≤ now) : t.waveActive now = false := by
  simpa [waveActive, wave.1, wave.2] using not_lt.mpr late

theorem evaluate_greenWave {p : Policy} {id : IntersectionId} {t : Traffic} {s : Snapshot}
    {extending : Bool} {now : Instant} (wave : (t.evaluate p id s extending now).1.kind = .greenWave) :
    t.evaluate p id s extending now = (t, none) := by
  have judged := t.evaluate_judged p id s extending now
  generalize p.thresholds.judge s = verdict at judged
  generalize t.evaluate p id s extending now = outcome at judged wave ⊢
  cases judged with
  | unmoved => rfl
  | waveOver => cases verdict <;> simp [leaveWave] at wave
  | detected => simp at wave
  | persisting congested => simp [congested] at wave
  | relieved => simp at wave

end Traffic

def Signal.Prioritized (s : Signal) (deadline : Instant) : Prop :=
  s.color = .green ∧ s.mode = .timed deadline .priority

theorem Signal.Prioritized.tick {s : Signal} {deadline now : Instant} (green : s.Prioritized deadline)
    (early : now < deadline) (cycle : Span) (id : IntersectionId) : (s.tick cycle id now).1 = s := by
  rw [tick_early cycle id green.2 early]

theorem Signal.Prioritized.lapse {s : Signal} {deadline now : Instant} (green : s.Prioritized deadline)
    (early : now < deadline) : s.lapse now = s := by
  simp [Signal.lapse, green.2, early]

def Cell.Released (policy : Policy) (id : IntersectionId) (now : Instant) (records : List Record)
    (c : Cell) : Prop :=
  match policy.thresholds.judge c.snapshot with
  | .congestion =>
      c.traffic = ⟨.congestion, now, none⟩ ∧
        ∃ color, .change ⟨id, color, .green, Cause.congestion.label,
          some (now.after policy.timings.extensionSeconds), now⟩ ∈ records
  | _ => c.traffic = ⟨.normal, now, none⟩

namespace Pass

variable {p : Pass} (policy : Policy) (id : IntersectionId) {now : Instant}

theorem evaluate_released (wave : p.cell.traffic.kind = .greenWave)
    (ended : p.cell.traffic.waveActive now = false) :
    (p.evaluate policy id now).1.cell.Released policy id now (p.evaluate policy id now).1.records := by
  have decided := p.cell.traffic.evaluate_waveOver policy id p.cell.snapshot
    (p.cell.signal.extending now) now wave ended
  cases verdict : policy.thresholds.judge p.cell.snapshot with
  | congestion =>
    simp only [verdict, Traffic.leaveWave] at decided
    rw [evaluate_extension decided]
    simp only [Cell.Released, verdict]
    exact ⟨trivial, p.cell.signal.color, evaluate_extension_records decided⟩
  | normal =>
    simp only [verdict, Traffic.leaveWave] at decided
    rw [evaluate_calm decided]
    simp only [Cell.Released, verdict]
  | inconclusive =>
    simp only [verdict, Traffic.leaveWave] at decided
    rw [evaluate_calm decided]
    simp only [Cell.Released, verdict]

end Pass

namespace Cell

variable {c : Cell} (policy : Policy) (id : IntersectionId) {now expiry : Instant}

theorem Released.mono {records more : List Record} (released : c.Released policy id now records)
    (kept : records ⊆ more) : c.Released policy id now more := by
  unfold Released at *
  split
  next verdict =>
    rw [verdict] at released
    obtain ⟨traffic, color, member⟩ := released
    exact ⟨traffic, color, kept member⟩
  next verdict =>
    split at released
    next congested => exact absurd congested verdict
    next => exact released

theorem Released.not_wave {records : List Record} (released : c.Released policy id now records) :
    c.traffic.kind ≠ .greenWave := by
  unfold Released at released
  split at released
  next => simp [released.1]
  next => simp [released]

theorem ingest_released (r : Reading) (renews : (c.snapshot.renewal r).any = true)
    (wave : c.traffic.OnWave expiry) (late : expiry ≤ now) :
    (c.ingest policy now r).1.cell.Released policy r.intersection now
      (c.ingest policy now r).1.records := by
  simp only [ingest, renews, if_true]
  refine Pass.evaluate_released policy r.intersection ?_ ?_
  · simpa using wave.1
  · simpa using wave.ended late

theorem sweep_released (wave : c.traffic.OnWave expiry) (late : expiry ≤ now) :
    (c.sweep policy id now).cell.Released policy id now (c.sweep policy id now).records := by
  simp only [sweep, Pass.tick_cell, wave.1, wave.ended late, true_and, Bool.not_false, if_true]
  refine Pass.evaluate_released policy id ?_ ?_
  · simpa using wave.1
  · simpa using wave.ended late

theorem sweeps_released (n : Nat) {records : List Record}
    (released : c.Released policy id now records) :
    (c.undergo policy id now (List.replicate n .sweep)).1.Released policy id now records := by
  induction n generalizing c with
  | zero => exact released
  | succ n ih =>
    rw [List.replicate_succ]
    refine ih ?_
    simp only [act, c.sweep_kept policy id now (.inl released.not_wave)]
    exact released

section

variable (wave : c.traffic.OnWave expiry) (early : now < expiry)

include wave early

theorem act_traffic {a : CellAct} (waveless : ∀ reason, a ≠ .wave reason) :
    (c.act policy id now a).cell.traffic = c.traffic := by
  cases a with
  | ingest r => simp [act, c.ingest_kept policy now r (.inl (wave.active early))]
  | sweep => simp [act, c.sweep_kept policy id now (.inr (wave.active early))]
  | wave reason => exact absurd rfl (waveless reason)
  | hold color => simp [act]
  | stall seen => rfl

theorem act_signal {a : CellAct} (green : c.signal.Prioritized expiry)
    (waveless : ∀ reason, a ≠ .wave reason) (unheld : ∀ color, a ≠ .hold color) :
    (c.act policy id now a).cell.signal = c.signal := by
  cases a with
  | ingest r =>
    simp [act, c.ingest_kept policy now r (.inl (wave.active early)), green.tick early]
  | sweep => simp [act, c.sweep_kept policy id now (.inr (wave.active early)), green.tick early]
  | wave reason => exact absurd rfl (waveless reason)
  | hold color => exact absurd rfl (unheld color)
  | stall seen => simp [act, stall, green.lapse early]

theorem undergo_traffic {acts : List CellAct} (waveless : ∀ a ∈ acts, ∀ reason, a ≠ .wave reason) :
    (c.undergo policy id now acts).1.traffic = c.traffic := by
  refine undergo_keeps (fun d => d.traffic = c.traffic) (fun a member d same => ?_) rfl
  exact (act_traffic policy id (same ▸ wave) early (waveless a member)).trans same

theorem undergo_signal {acts : List CellAct} (green : c.signal.Prioritized expiry)
    (waveless : ∀ a ∈ acts, ∀ reason, a ≠ .wave reason)
    (unheld : ∀ a ∈ acts, ∀ color, a ≠ .hold color) :
    (c.undergo policy id now acts).1.signal = c.signal := by
  refine (undergo_keeps (fun d => d.traffic = c.traffic ∧ d.signal = c.signal)
    (fun a member d same => ⟨?_, ?_⟩) ⟨rfl, rfl⟩).2
  · exact (act_traffic policy id (same.1 ▸ wave) early (waveless a member)).trans same.1
  · exact (act_signal policy id (same.1 ▸ wave) early (same.2 ▸ green) (waveless a member)
      (unheld a member)).trans same.2

end

end Cell

namespace Operation

def Covers (g : Grid) (id : IntersectionId) : Operation → Prop
  | .wave route _ _ => ∃ ids, g.expand route = .ok ids ∧ id ∈ ids
  | _ => False

def Holds (id : IntersectionId) : Operation → Prop
  | .hold name _ _ => name = id
  | _ => False

end Operation

def CellAct.ComesOf (g : Grid) (id : IntersectionId) (op : Operation) : CellAct → Prop
  | .wave _ => op.Covers g id
  | .hold _ => op.Holds id
  | _ => True

theorem Operation.Brings.comesOf {g : Grid} {op : Operation} {id : IntersectionId} {a : CellAct}
    (brought : op.Brings g (id, a)) : a.ComesOf g id op := by
  cases brought with
  | line | reading | sweep => trivial
  | wave expanded affected => exact ⟨_, expanded, affected⟩
  | hold => rfl

namespace ControlRoom

theorem acts_origin {s : ControlRoom} {now : Instant} {op : Operation} {id : IntersectionId} {a : CellAct}
    (member : a ∈ s.acts now id op) : a.ComesOf s.controller.grid id op := by
  obtain ⟨b, brought, rfl | rfl⟩ := visits_brought (mem_actsOn.mp member)
  · exact brought.comesOf
  · cases b <;> trivial

theorem acts_waveless {s : ControlRoom} {now : Instant} {op : Operation} {id : IntersectionId}
    (uncovered : ¬ op.Covers s.controller.grid id) : ∀ a ∈ s.acts now id op, ∀ reason, a ≠ .wave reason := by
  rintro a member reason rfl
  exact uncovered (acts_origin member)

theorem acts_unheld {s : ControlRoom} {now : Instant} {op : Operation} {id : IntersectionId}
    (unheld : ¬ op.Holds id) : ∀ a ∈ s.acts now id op, ∀ color, a ≠ .hold color := by
  rintro a member color rfl
  exact unheld (acts_origin member)

def Renews (s : ControlRoom) (id : IntersectionId) (r : Reading) : Prop :=
  r.intersection = id ∧
    ∃ cell, s.controller.cell? id = some cell ∧ (cell.snapshot.renewal r).any = true

/-- Any sweep, and whatever brings in a reading that is not stale. -/
def Judges (s : ControlRoom) (id : IntersectionId) : Operation → Prop
  | .line text => ∃ r, SensorLine.parse s.controller.grid text = .accepted r ∧ s.Renews id r
  | .reading r => s.Renews id r
  | .sweep => True
  | _ => False

def Waits (id : IntersectionId) (expiry : Instant) : ControlRoom → List (Instant × Operation) → Prop
  | _, [] => True
  | s, (now, op) :: rest =>
      ¬ op.Covers s.controller.grid id ∧ (now < expiry ∨ ¬ s.Judges id op) ∧
        Waits id expiry (s.perform now op) rest

section

variable {s : ControlRoom} {now expiry : Instant} {op : Operation} {id : IntersectionId} {cell : Cell}
  (found : s.controller.cell? id = some cell) (wave : cell.traffic.OnWave expiry)
  (uncovered : ¬ op.Covers s.controller.grid id)

include found wave uncovered

theorem perform_early (early : now < expiry) :
    ∃ later, (s.perform now op).controller.cell? id = some later ∧ later.traffic = cell.traffic ∧
      (cell.signal.Prioritized expiry → ¬ op.Holds id → later.signal = cell.signal) := by
  rw [perform_cell?, found]
  refine ⟨_, rfl, ?_, ?_⟩
  · exact Cell.undergo_traffic _ id wave early (acts_waveless uncovered)
  · intro green unheld
    exact Cell.undergo_signal _ id wave early green (acts_waveless uncovered) (acts_unheld unheld)

omit wave uncovered in
theorem reading_unjudged {r : Reading} (stale : ¬ s.Renews id r) :
    (cell.undergo s.controller.policy id now (s.acts now id (.reading r))).1.traffic = cell.traffic := by
  rcases s.acts_reading now id r with none | ⟨same, whole | stuck⟩
  · rw [none]
    rfl
  · have unmoved : (cell.snapshot.renewal r).any = false := by
      by_contra renews
      exact stale ⟨same, cell, found, by simpa using renews⟩
    simp [whole, Cell.undergo, Cell.act, cell.ingest_kept _ now r (.inr unmoved)]
  · rw [stuck]
    rfl

omit wave in
theorem perform_unjudged (unjudged : ¬ s.Judges id op) :
    ∃ later, (s.perform now op).controller.cell? id = some later ∧ later.traffic = cell.traffic := by
  rw [perform_cell?, found]
  refine ⟨_, rfl, ?_⟩
  have idle (none : ∀ a, ¬ a ∈ s.acts now id op) :
      (cell.undergo s.controller.policy id now (s.acts now id op)).1.traffic = cell.traffic := by
    rw [List.eq_nil_iff_forall_not_mem.mpr none]
    rfl
  cases op with
  | line text =>
    cases parsed : SensorLine.parse s.controller.grid text with
    | accepted r =>
      have same : s.acts now id (.line text) = s.acts now id (.reading r) := by
        simp only [acts, visits, Controller.visits, Controller.plan, parsed]
      rw [same]
      exact reading_unjudged found fun renews => unjudged ⟨r, parsed, renews⟩
    | rejected fault =>
      simp only [acts, visits, Controller.visits, Controller.plan, parsed]
      rfl
    | overflow =>
      simp only [acts, visits, Controller.visits, Controller.plan, parsed]
      rfl
  | reading r => exact reading_unjudged found unjudged
  | sweep => exact absurd trivial unjudged
  | wave route reason requestedBy =>
    refine idle fun a member => ?_
    obtain ⟨_, brought, _⟩ := visits_brought (mem_actsOn.mp member)
    cases brought with
    | wave expanded affected => exact uncovered ⟨_, expanded, affected⟩
  | hold name color requestedBy =>
    refine Cell.undergo_keeps (fun d => d.traffic = cell.traffic) (fun a member d same => ?_) rfl
    obtain ⟨_, brought, rfl | rfl⟩ := visits_brought (mem_actsOn.mp member)
    · cases brought
      simpa [Cell.act] using same
    · cases brought
      exact same
  | status name => exact idle fun a member => by simp [acts, visits, Controller.visits, Controller.plan, Controller.reached, actsOn] at member

end

def Releases (s : ControlRoom) (id : IntersectionId) (now : Instant) (op : Operation) : Prop :=
  ∃ after cell, s.attempt now op = some after ∧ s.Takes after (s.controller.operate now op) ∧
    after.controller.cell? id = some cell ∧
    cell.Released s.controller.policy id now (s.controller.operate now op).2.records

theorem judges_readable {s : ControlRoom} {id : IntersectionId} {op : Operation} (judges : s.Judges id op) :
    ∀ text, op = .line text → SensorLine.parse s.controller.grid text ≠ .overflow := by
  rintro text rfl overflowed
  obtain ⟨r, parsed, _⟩ := judges
  rw [parsed] at overflowed
  cases overflowed

theorem reading_released {s : ControlRoom} {now expiry : Instant} {id : IntersectionId} {cell : Cell}
    (found : s.controller.cell? id = some cell) (wave : cell.traffic.OnWave expiry)
    (late : expiry ≤ now) {r : Reading} (renews : s.Renews id r) :
    let acts := actsOn id (s.controller.visits now (.reading r))
    (cell.undergo s.controller.policy id now acts).1.Released s.controller.policy id now
      (cell.undergo s.controller.policy id now acts).2 := by
  obtain ⟨rfl, held, same, fresh⟩ := renews
  rw [found, Option.some.injEq] at same
  subst same
  rw [Controller.visits_reading, found]
  simpa [actsOn, Cell.undergo, Cell.act] using
    Cell.ingest_released s.controller.policy r fresh wave late

theorem perform_released {s : ControlRoom} {now expiry : Instant} {op : Operation} {id : IntersectionId}
    {cell : Cell} (found : s.controller.cell? id = some cell) (wave : cell.traffic.OnWave expiry)
    (listed : id ∈ s.controller.grid.ids) (late : expiry ≤ now) (inside : now.isFinalLeap = false)
    (judges : s.Judges id op) : s.Releases id now op := by
  obtain ⟨after, attempted⟩ := Option.isSome_iff_exists.mp
    (s.attempt_inside inside (judges_readable judges))
  have later := s.perform_cell? now op id
  rw [perform_done attempted, found, Option.map_some, acts, s.visits_inside inside] at later
  refine ⟨after, _, attempted, attempt_takes attempted, later, ?_⟩
  refine Cell.Released.mono s.controller.policy id ?_
    (List.Subset.trans (Controller.goOver_records now _ found) (s.controller.operate_records now op))
  cases op with
  | line text =>
    obtain ⟨r, parsed, renews⟩ := judges
    simpa only [Controller.visits, Controller.plan, parsed] using reading_released found wave late renews
  | reading r => exact reading_released found wave late judges
  | sweep =>
    obtain ⟨n, count⟩ := Nat.exists_eq_add_one.mpr (List.count_pos_iff.mpr listed)
    have sweeps : actsOn id (s.controller.visits now .sweep) = List.replicate (n + 1) .sweep := by
      rw [← count]
      exact actsOn_map id _ _
    rw [sweeps, List.replicate_succ]
    -- The first pass releases the cell; a grid that lists it again has it passed again.
    refine Cell.sweeps_released s.controller.policy id n ?_
    exact (Cell.sweep_released s.controller.policy id wave late).mono s.controller.policy id
      (List.subset_append_left _ _)
  | wave route reason requestedBy => exact judges.elim
  | hold name color requestedBy => exact judges.elim
  | status name => exact judges.elim

section

variable {s : ControlRoom} {id : IntersectionId} {expiry : Instant} {cell : Cell}
  (found : s.controller.cell? id = some cell) (wave : cell.traffic.OnWave expiry)

include found wave

theorem run_early (steps : List (Instant × Operation))
    (early : ∀ step ∈ steps, step.1 < expiry ∧ ¬ step.2.Covers s.controller.grid id) :
    ∃ later, (s.run steps).controller.cell? id = some later ∧ later.traffic = cell.traffic ∧
      (cell.signal.Prioritized expiry → (∀ step ∈ steps, ¬ step.2.Holds id) →
        later.signal = cell.signal) := by
  induction steps generalizing s cell with
  | nil => exact ⟨cell, found, rfl, fun _ _ => rfl⟩
  | cons step rest ih =>
    rw [List.forall_mem_cons] at early
    obtain ⟨next, found', traffic, signal⟩ := perform_early found wave early.1.2 early.1.1
    have early' : ∀ step' ∈ rest,
        step'.1 < expiry ∧ ¬ step'.2.Covers (s.perform step.1 step.2).controller.grid id := by
      rw [(s.perform_paired step.1 step.2).grid]
      exact early.2
    obtain ⟨later, found'', traffic', signal'⟩ := ih found' (by rw [traffic]; exact wave) early'
    refine ⟨later, found'', traffic'.trans traffic, ?_⟩
    -- The traffic stays whatever comes; the signal only if nothing holds it.
    intro green unheld
    rw [List.forall_mem_cons] at unheld
    have kept := signal green unheld.1
    exact (signal' (by rw [kept]; exact green) unheld.2).trans kept

theorem run_waits (steps : List (Instant × Operation)) (waits : s.Waits id expiry steps) :
    ∃ later, (s.run steps).controller.cell? id = some later ∧ later.traffic = cell.traffic := by
  induction steps generalizing s cell with
  | nil => exact ⟨cell, found, rfl⟩
  | cons step rest ih =>
    obtain ⟨uncovered, early | unjudged, waits'⟩ := waits
    · obtain ⟨next, found', traffic, _⟩ := perform_early found wave uncovered early
      obtain ⟨later, found'', traffic'⟩ := ih found' (by rw [traffic]; exact wave) waits'
      exact ⟨later, found'', traffic'.trans traffic⟩
    · obtain ⟨next, found', traffic⟩ := perform_unjudged found uncovered unjudged
      obtain ⟨later, found'', traffic'⟩ := ih found' (by rw [traffic]; exact wave) waits'
      exact ⟨later, found'', traffic'.trans traffic⟩

end

theorem run_listed {settings : Settings} {replica primary : Store} {start : Instant} {s : ControlRoom}
    (ready : start? settings replica primary start = some s) (steps : List (Instant × Operation))
    (id : IntersectionId) :
    ((s.run steps).controller.cell? id).isSome ↔ id ∈ (s.run steps).controller.grid.ids := by
  have listed : (s.controller.cell? id).isSome ↔ id ∈ s.controller.grid.ids := by
    simp only [start?, Option.map_eq_some_iff] at ready
    obtain ⟨archive, _, rfl⟩ := ready
    rw [Controller.cell?_ofSettings]
    split
    next listed => exact iff_of_true rfl listed
    next unlisted => exact iff_of_false (by simp) unlisted
  clear ready
  induction steps generalizing s with
  | nil => exact listed
  | cons step rest ih =>
    refine ih (s := s.perform step.1 step.2) ?_
    rw [perform_cell?, Option.isSome_map, (s.perform_paired step.1 step.2).grid]
    exact listed

theorem wave_ok {s s' : ControlRoom} {now : Instant} {route : Route} {reason requestedBy : String}
    {outcome : WaveOutcome} (waved : s.wave now route reason requestedBy = .ok (.ok outcome, s')) :
    s.attempt now (.wave route reason requestedBy) = some s' ∧
      s.controller.grid.expand route = .ok outcome.affected ∧
      outcome.expiresAt = now.after s.controller.policy.timings.waveSeconds ∧
      ∀ id ∈ outcome.affected, (s.controller.cell? id).isSome := by
  refine ⟨attempt_some.mpr (by rw [undertake, waved]; rfl), ?_⟩
  unfold wave at waved
  rcases s.controller.wave_cases now route reason requestedBy with
    ⟨_, fault, turned⟩ | ⟨ids, cells, e, expanded, gathered, called, _⟩
  · rw [turned] at waved
    cases waved
  · rw [called] at waved
    cases guardTick_ok waved
    exact ⟨expanded, rfl, (Controller.gather_isOk _ _).mp ⟨cells, gathered⟩⟩

theorem wave_completes {s : ControlRoom} {now : Instant} {route : Route} {ids : List IntersectionId}
    (expanded : s.controller.grid.expand route = .ok ids)
    (all : ∀ id ∈ ids, (s.controller.cell? id).isSome) (inside : now.isFinalLeap = false)
    (reason requestedBy : String) :
    s.wave now route reason requestedBy =
      .ok (.ok ⟨ids, now.after s.controller.policy.timings.waveSeconds⟩,
        s.perform now (.wave route reason requestedBy)) := by
  obtain ⟨s', waved⟩ : ∃ s', s.wave now route reason requestedBy =
      .ok (.ok ⟨ids, now.after s.controller.policy.timings.waveSeconds⟩, s') := by
    unfold wave
    rcases s.controller.wave_cases now route reason requestedBy with
      ⟨missing, _⟩ | ⟨ids', cells, e, expanded', _, called, _⟩
    · exact absurd all (missing ids expanded)
    · rw [expanded, Except.ok.injEq] at expanded'
      subst expanded'
      simp only [called, guardTick_inside s inside]
      exact ⟨_, rfl⟩
  rw [perform, undertake, waved]
  rfl

theorem wave_performed {s s' : ControlRoom} {now : Instant} {route : Route}
    {reason requestedBy : String} {outcome : WaveOutcome}
    (waved : s.wave now route reason requestedBy = .ok (.ok outcome, s')) :
    s.perform now (.wave route reason requestedBy) = s' := perform_done (wave_ok waved).1

theorem wave_acts {s s' : ControlRoom} {now : Instant} {route : Route} {reason requestedBy : String}
    {outcome : WaveOutcome} (waved : s.wave now route reason requestedBy = .ok (.ok outcome, s'))
    {id : IntersectionId} (affected : id ∈ outcome.affected) :
    s.acts now id (.wave route reason requestedBy) = [.wave reason] := by
  obtain ⟨attempted, expanded, _, all⟩ := wave_ok waved
  rw [acts, visits_done (by rw [attempted]; rfl), Controller.visits_wave _ now expanded, if_pos all,
    actsOn_map, List.count_eq_one_of_mem (Grid.expand_nodup expanded) affected]
  rfl

theorem wave_starts {s s' : ControlRoom} {now : Instant} {route : Route} {reason requestedBy : String}
    {outcome : WaveOutcome} (waved : s.wave now route reason requestedBy = .ok (.ok outcome, s'))
    {id : IntersectionId} (affected : id ∈ outcome.affected) :
    ∃ cell, s'.controller.cell? id = some cell ∧ cell.traffic.OnWave outcome.expiresAt ∧
      cell.signal.Prioritized outcome.expiresAt := by
  obtain ⟨attempted, expanded, expires, all⟩ := wave_ok waved
  obtain ⟨cell, found⟩ := Option.isSome_iff_exists.mp (all id affected)
  rw [← wave_performed waved, perform_cell?, found, wave_acts waved affected, expires]
  refine ⟨_, rfl, ?_, ?_⟩
  · simp [Cell.undergo, Cell.act, Traffic.OnWave]
  · simp [Cell.undergo, Cell.act, Signal.Prioritized, Signal.Command.mode]

/-- A green wave holds for exactly its window, and the next sweep or fresh reading takes the
intersection out. -/
theorem wave_window_exact {settings : Settings} {replica primary : Store} {start : Instant}
    {room : ControlRoom} (ready : start? settings replica primary start = some room)
    (before : List (Instant × Operation)) {began : Instant} {route : Route}
    {reason requestedBy : String} {outcome : WaveOutcome} {s : ControlRoom}
    (waved : (room.run before).wave began route reason requestedBy = .ok (.ok outcome, s))
    {id : IntersectionId} (affected : id ∈ outcome.affected) :
    (∀ steps : List (Instant × Operation),
      (∀ step ∈ steps, step.1 < outcome.expiresAt ∧ ¬ step.2.Covers s.controller.grid id) →
        ∃ cell, (s.run steps).controller.cell? id = some cell ∧
          cell.traffic.OnWave outcome.expiresAt ∧
          ((∀ step ∈ steps, ¬ step.2.Holds id) → cell.signal.Prioritized outcome.expiresAt)) ∧
      (∀ steps now op, s.Waits id outcome.expiresAt steps → outcome.expiresAt ≤ now →
        now.isFinalLeap = false → (s.run steps).Judges id op → (s.run steps).Releases id now op) ∧
      ∀ policy other (traffic : Traffic) snapshot extending now,
        (traffic.evaluate policy other snapshot extending now).1.kind = .greenWave →
          traffic.evaluate policy other snapshot extending now = (traffic, none) := by
  obtain ⟨cell, found, wave, green⟩ := wave_starts waved affected
  refine ⟨?_, ?_, ?_⟩
  · intro steps early
    obtain ⟨later, found', traffic, signal⟩ := run_early found wave steps early
    refine ⟨later, found', by rw [traffic]; exact wave, ?_⟩
    intro unheld
    rw [signal green unheld]
    exact green
  · intro steps now op waits late inside judges
    obtain ⟨later, found', traffic⟩ := run_waits found wave steps waits
    have whole : s.run steps = room.run (before ++ (began, .wave route reason requestedBy) :: steps) := by
      rw [run_append, run_cons, wave_performed waved]
    have listed : id ∈ (s.run steps).controller.grid.ids := by
      rw [whole] at found' ⊢
      exact (run_listed ready _ id).mp (by rw [found']; rfl)
    exact perform_released found' (by rw [traffic]; exact wave) listed late inside judges
  · intro policy other traffic snapshot extending now
    exact Traffic.evaluate_greenWave

theorem wave_window_exact_alone :
    ∃ room outcome s,
      start? { rows := ["A"], columns := [1] } (.log { name := "replica" })
        (.log { name := "primary" }) .epoch = some room ∧
      (room.run []).wave .epoch (.row "A") "ambulance" "operator" = .ok (.ok outcome, s) ∧
      "INT-A1" ∈ outcome.affected ∧ outcome.expiresAt = Instant.epoch.after 30 ∧
      s.Releases "INT-A1" (Instant.epoch.after 30) .sweep := by
  refine ⟨_, ⟨["INT-A1"], Instant.epoch.after 30⟩, _, rfl, rfl, .head _, rfl, ?_⟩
  exact (@wave_window_exact { rows := ["A"], columns := [1] } (.log { name := "replica" })
    (.log { name := "primary" }) .epoch _ rfl [] .epoch (.row "A") "ambulance"
    "operator" ⟨["INT-A1"], Instant.epoch.after 30⟩ _ rfl "INT-A1" (.head _)).2.1 []
    (Instant.epoch.after 30) .sweep trivial (by decide) (by decide) trivial

theorem wave_outlasts_final_leap :
    ∃ room outcome s began now,
      start? { rows := ["A"], columns := [1] } (.log { name := "replica" })
        (.log { name := "primary" }) began = some room ∧
      room.wave began (.row "A") "ambulance" "operator" = .ok (.ok outcome, s) ∧
      "INT-A1" ∈ outcome.affected ∧ outcome.expiresAt ≤ now ∧
      (s.attempt now .sweep).isSome = false ∧
      ((s.perform now .sweep).controller.cell? "INT-A1").map (fun cell => cell.traffic.kind) =
        some .greenWave := by
  let began : Instant := ⟨8210266876755, 0, by decide, by decide, by decide, by decide⟩
  let now : Instant := ⟨8210266876799, 1000000000, by decide, by decide, by decide, by decide⟩
  have present : ∀ id ∈ ["INT-A1"], ((Controller.ofSettings { rows := ["A"], columns := [1] }
      began).cell? id).isSome := by decide +kernel
  refine ⟨_, _, _, began, now, rfl,
    @wave_completes _ began (.row "A") ["INT-A1"] rfl present (by decide) "ambulance" "operator",
    .head _, by decide +kernel, ?_, ?_⟩
  · decide +kernel
  · decide +kernel

end ControlRoom

end Signalgrid
