import Signalgrid.Proofs.Control.Passes
import Signalgrid.Proofs.Record.Chains

set_option autoImplicit false

namespace Signalgrid

namespace Signal

section

variable (cycle : Span) (id : IntersectionId) (s : Signal) (now : Instant)

theorem turn_told :
    Linked Transition.before Transition.after s.color (s.turn cycle id now).2.toList
        (s.turn cycle id now).1.color ∧
      ∀ t ∈ (s.turn cycle id now).2, t.intersection = id := by
  unfold turn
  split_ifs
  · exact ⟨rfl, by simp⟩
  · exact ⟨rfl, by simp⟩
  · exact ⟨⟨rfl, rfl⟩, by simp⟩

theorem lapse_color : (s.lapse now).color = s.color := by
  unfold lapse
  split
  · split <;> rfl
  · rfl

theorem tick_told :
    Linked Transition.before Transition.after s.color (s.tick cycle id now).2.toList
        (s.tick cycle id now).1.color ∧
      ∀ t ∈ (s.tick cycle id now).2, t.intersection = id := by
  simp only [tick]
  split
  · rw [← s.lapse_color now]
    exact (s.lapse now).turn_told cycle id now
  · exact ⟨(s.lapse_color now).symm, by simp⟩

theorem apply_told (c : Command) :
    Linked Transition.before Transition.after s.color (s.apply c).2.toList (s.apply c).1.color ∧
      ∀ t ∈ (s.apply c).2, t.intersection = c.intersection ∧ t.moment = c.issuedAt := by
  simp only [apply]
  split
  · exact ⟨rfl, by simp⟩
  · exact ⟨⟨rfl, rfl⟩, by simp⟩

@[simp] theorem resume_color : (s.resume now).color = s.color := by
  unfold resume
  split <;> rfl

end

def Awaits (s : Signal) (m : Instant) : Prop :=
  match s.mode with
  | .cycling => m ≤ s.phaseStart
  | .timed deadline _ => m ≤ deadline
  | .held => True

theorem awaits_cycling {s : Signal} (cycling : s.mode = .cycling) (m : Instant) :
    s.Awaits m ↔ m ≤ s.phaseStart := by
  simp [Awaits, cycling]

structure Ordered (s : Signal) (past : List Transition) (now : Instant) : Prop where
  sorted : past.Pairwise fun a b => a.moment ≤ b.moment
  passed : ∀ t ∈ past, t.moment ≤ now
  awaited : ∀ t ∈ past, s.Awaits t.moment

theorem Ordered.later {s : Signal} {past : List Transition} {now now' : Instant}
    (ordered : s.Ordered past now) (forward : now ≤ now') : s.Ordered past now' :=
  ⟨ordered.sorted, fun t member => le_trans (ordered.passed t member) forward, ordered.awaited⟩

theorem Ordered.next {s s' : Signal} {past : List Transition} {now : Instant}
    (ordered : s.Ordered past now) (change : Option Transition)
    (onward : ∀ m, m ≤ now → s.Awaits m → s'.Awaits m)
    (after : ∀ t ∈ change, t.moment ≤ now ∧ s'.Awaits t.moment ∧ ∀ m ≤ now, s.Awaits m → m ≤ t.moment) :
    s'.Ordered (past ++ change.toList) now := by
  have kept : ∀ t ∈ past, s'.Awaits t.moment := fun t member =>
    onward t.moment (ordered.passed t member) (ordered.awaited t member)
  cases change with
  | none => simpa using ⟨ordered.sorted, ordered.passed, kept⟩
  | some t =>
    obtain ⟨passed, awaited, last⟩ := after t rfl
    refine ⟨?_, ?_, ?_⟩
    · rw [Option.toList_some, List.pairwise_append]
      refine ⟨ordered.sorted, List.pairwise_singleton _ _, fun u member v single => ?_⟩
      rw [List.mem_singleton.mp single]
      exact last u.moment (ordered.passed u member) (ordered.awaited u member)
    · simpa [or_imp, forall_and] using ⟨ordered.passed, passed⟩
    · simpa [or_imp, forall_and] using ⟨kept, awaited⟩

theorem Ordered.lapsed {s : Signal} {past : List Transition} {now deadline : Instant} {cause : Cause}
    (ordered : s.Ordered past now) (mode : s.mode = .timed deadline cause) :
    (s.lapsed deadline).Ordered past now := by
  refine ⟨ordered.sorted, ordered.passed, fun t member => ?_⟩
  have awaited := ordered.awaited t member
  simp only [Awaits, mode] at awaited
  exact awaited

section

variable (n : Nat) (id : IntersectionId) {s : Signal} {now : Instant} (plain : now.isLeap = false)

include plain

theorem nextAnchor?_between {anchor : Instant}
    (due : cycleNanos n ≤ (now.since s.phaseStart).nanos)
    (found : nextAnchor? (cycleSpan n) s now = some anchor) :
    s.phaseStart ≤ anchor ∧ anchor ≤ now := by
  have positive := cycleNanos_pos n
  obtain ⟨least, most⟩ := stride_bounds due
  have span := Instant.since_le now s.phaseStart
  obtain ⟨plainAnchor, stamp⟩ := Instant.add?_long (le_trans positive least) found
  simp only at stamp
  rw [Instant.le_iff_stamp plainAnchor plain]
  rw [Instant.isLeap_eq_false] at plainAnchor
  constructor
  · have nanos := s.phaseStart.nanos_lt
    rw [Instant.le_iff]
    simp only [Instant.stamp, Instant.isLeap_eq_true] at stamp
    split_ifs at stamp <;> omega
  · omega

theorem turn_anchor :
    s.phaseStart ≤ (s.turn (cycleSpan n) id now).1.phaseStart ∧
      ∀ t ∈ (s.turn (cycleSpan n) id now).2,
        t.moment = (s.turn (cycleSpan n) id now).1.phaseStart ∧ t.moment ≤ now := by
  by_cases due : now.since s.phaseStart < cycleSpan n
  · simp [turn, due]
  · obtain ⟨anchor, found, turned⟩ := turn_due n id (Instant.isFinalLeap_of_plain plain) due
    obtain ⟨forward, reached⟩ := nextAnchor?_between n plain ((due_iff n s now).mp due) found
    rw [turned, strode_phaseStart]
    refine ⟨forward, fun t told => ?_⟩
    rw [strode_told id s _ anchor t told]
    exact ⟨rfl, reached⟩

theorem turn_ordered {past : List Transition} (cycling : s.mode = .cycling)
    (ordered : s.Ordered past now) :
    (s.turn (cycleSpan n) id now).1.Ordered (past ++ (s.turn (cycleSpan n) id now).2.toList) now := by
  obtain ⟨forward, dated⟩ := @turn_anchor n id s now plain
  have onward : (s.turn (cycleSpan n) id now).1.mode = .cycling := (turn_mode _ id s).trans cycling
  generalize s.turn (cycleSpan n) id now = outcome at *
  have awaits := awaits_cycling cycling
  have awaits' := awaits_cycling onward
  refine ordered.next _ ?_ fun t told => ⟨(dated t told).2, ?_, ?_⟩
  · intro m _ awaited
    exact (awaits' m).mpr (le_trans ((awaits m).mp awaited) forward)
  · rw [awaits', (dated t told).1]
  · intro m _ awaited
    rw [(dated t told).1]
    exact le_trans ((awaits m).mp awaited) forward

theorem tick_ordered {past : List Transition} (ordered : s.Ordered past now) :
    (s.tick (cycleSpan n) id now).1.Ordered (past ++ (s.tick (cycleSpan n) id now).2.toList) now := by
  cases mode : s.mode with
  | cycling =>
    rw [tick_cycling _ id mode]
    exact turn_ordered n id plain mode ordered
  | held =>
    rw [tick_held _ id mode]
    simpa using ordered
  | timed deadline cause =>
    by_cases early : now < deadline
    · rw [tick_early _ id mode early]
      simpa using ordered
    · rw [tick_late _ id mode early]
      exact turn_ordered n id plain rfl (ordered.lapsed mode)

theorem apply_ordered {past : List Transition} {c : Command} (issued : c.issuedAt = now)
    (ordered : s.Ordered past now) : (s.apply c).1.Ordered (past ++ (s.apply c).2.toList) now := by
  have reached : ∀ m, m ≤ now → (s.apply c).1.Awaits m := by
    intro m passed
    simp only [Awaits, apply_mode, Command.mode]
    cases c.seconds with
    | none => trivial
    | some k => exact le_trans passed (issued ▸ (Instant.after_plain plain k).2)
  refine ordered.next _ (fun m passed _ => reached m passed) fun t told => ?_
  have moment := ((s.apply_told c).2 t told).2.trans issued
  rw [moment]
  exact ⟨le_refl now, reached now (le_refl now), fun m passed _ => passed⟩

omit plain in
theorem resume_ordered {past : List Transition} (ordered : s.Ordered past now) :
    (s.resume now).Ordered past now := by
  unfold resume
  split
  · exact ordered
  · exact ⟨ordered.sorted, ordered.passed, ordered.passed⟩

end

end Signal

open Record

structure Cell.Tells (id : IntersectionId) (now : Instant) (c d : Cell) (rs : List Record) : Prop where
  own : ∀ r ∈ rs, r.intersection? = some id
  light : Linked Transition.before Transition.after c.signal.color (changesOf id rs) d.signal.color
  traffic : Linked DecisionRow.previous DecisionRow.current c.traffic.kind (decisionsOf id rs)
    d.traffic.kind
  decided : ∀ row ∈ decisionsOf id rs, row.recordedAt = now
  ordered : now.isLeap = false → ∀ past, c.signal.Ordered past now →
    d.signal.Ordered (past ++ changesOf id rs) now

namespace Cell

variable {id : IntersectionId} {now : Instant} {b c d : Cell} {rs more : List Record}

theorem Tells.nothing (signal : d.signal = c.signal) (traffic : d.traffic = c.traffic) :
    c.Tells id now d [] where
  own := by simp
  light := congrArg Signal.color signal.symm
  traffic := congrArg Traffic.kind traffic.symm
  decided := by simp [decisionsOf]
  ordered _ past ordered := by
    rw [signal]
    simpa [changesOf] using ordered

theorem Tells.congr (told : c.Tells id now d rs) (changes : changesOf id rs = changesOf id more)
    (decisions : decisionsOf id rs = decisionsOf id more) (own : ∀ r ∈ more, r.intersection? = some id) :
    c.Tells id now d more where
  own := own
  light := changes ▸ told.light
  traffic := decisions ▸ told.traffic
  decided := decisions ▸ told.decided
  ordered := changes ▸ told.ordered

theorem Tells.trans (first : b.Tells id now c rs) (second : c.Tells id now d more) :
    b.Tells id now d (rs ++ more) where
  own := List.forall_mem_append.mpr ⟨first.own, second.own⟩
  light := by
    rw [changesOf_append]
    exact first.light.append second.light
  traffic := by
    rw [decisionsOf_append]
    exact first.traffic.append second.traffic
  decided := by
    rw [decisionsOf_append]
    exact List.forall_mem_append.mpr ⟨first.decided, second.decided⟩
  ordered plain past ordered := by
    rw [changesOf_append, ← List.append_assoc]
    exact second.ordered plain _ (first.ordered plain past ordered)

theorem Tells.change {change : Option Transition}
    (light : Linked Transition.before Transition.after c.signal.color change.toList d.signal.color)
    (own : ∀ t ∈ change, t.intersection = id) (traffic : d.traffic = c.traffic)
    (ordered : now.isLeap = false → ∀ past, c.signal.Ordered past now →
      d.signal.Ordered (past ++ change.toList) now) :
    c.Tells id now d (change.toList.map Record.change) where
  own := by
    intro r member
    obtain ⟨t, told, rfl⟩ := List.mem_map.mp member
    rw [intersection?, own t (Option.mem_toList.mp told)]
  light := by
    rw [changesOf_change own]
    exact light
  traffic := by
    rw [decisionsOf_change]
    exact congrArg Traffic.kind traffic.symm
  decided := by simp [decisionsOf_change]
  ordered plain past := by
    rw [changesOf_change own]
    exact ordered plain past

theorem Tells.decision {row : DecisionRow} (own : row.intersection = id) (moment : row.recordedAt = now)
    (signal : d.signal = c.signal) (previous : row.previous = c.traffic.kind)
    (current : row.current = d.traffic.kind) : c.Tells id now d [.decision row] := by
  have decided : decisionsOf id [.decision row] = [row] := by
    simp [decisionsOf, decisionOf?, own]
  have unchanged : changesOf id [.decision row] = [] := rfl
  constructor
  case own => simp [intersection?, own]
  case light => exact congrArg Signal.color signal.symm
  case traffic =>
    rw [decided]
    exact ⟨previous, current⟩
  case decided => simp [decided, moment]
  case ordered =>
    intro _ past ordered
    rw [signal, unchanged, List.append_nil]
    exact ordered

end Cell

structure Evaluation.Tells (id : IntersectionId) (now : Instant) (before after : TrafficKind)
    (e : Evaluation) : Prop where
  previous : e.previous = before
  current : e.current = after
  command : ∀ c ∈ e.command, c.intersection = id ∧ c.issuedAt = now

namespace Traffic

variable (p : Policy) (id : IntersectionId) (t : Traffic) (s : Snapshot) (extending : Bool) (now : Instant)

theorem evaluate_tells :
    ∀ e ∈ (t.evaluate p id s extending now).2,
      e.Tells id now t.kind (t.evaluate p id s extending now).1.kind := by
  have judged := t.evaluate_judged p id s extending now
  generalize p.thresholds.judge s = verdict at judged
  generalize t.evaluate p id s extending now = outcome at judged
  cases judged with
  | unmoved => simp
  | waveOver _ wave =>
    cases verdict <;>
      · rintro _ ⟨⟩
        exact ⟨wave.symm, rfl, by simp [extension, calm]⟩
  | detected =>
    rintro _ ⟨⟩
    exact ⟨rfl, rfl, by simp [extension]⟩
  | persisting congested =>
    rintro _ ⟨⟩
    exact ⟨rfl, congested.symm, by simp [extension]⟩
  | relieved =>
    rintro _ ⟨⟩
    exact ⟨rfl, rfl, by simp [calm]⟩

theorem enterWave_tells :
    (t.enterWave p id now).2.Tells id now t.kind (t.enterWave p id now).1.kind :=
  ⟨rfl, rfl, by simp [enterWave]⟩

end Traffic

namespace Pass

def Tells (id : IntersectionId) (now : Instant) (p q : Pass) : Prop :=
  ∃ more, q.records = p.records ++ more ∧ p.cell.Tells id now q.cell more

theorem Tells.trans {id : IntersectionId} {now : Instant} {p q r : Pass} (first : p.Tells id now q)
    (second : q.Tells id now r) : p.Tells id now r := by
  obtain ⟨rs, records, told⟩ := first
  obtain ⟨more, records', told'⟩ := second
  exact ⟨rs ++ more, by rw [records', records, List.append_assoc], told.trans told'⟩

theorem Tells.refl {id : IntersectionId} {now : Instant} (p : Pass) : p.Tells id now p :=
  ⟨[], by simp, .nothing rfl rfl⟩

section

variable (policy : Policy) {id : IntersectionId} {now : Instant} {p q : Pass}

theorem tick_tells (p : Pass) : p.Tells id now (p.tick policy id now) := by
  obtain ⟨light, own⟩ := p.cell.signal.tick_told policy.cycle id now
  refine ⟨(p.cell.signal.tick policy.cycle id now).2.toList.map .change, p.note_records _ _,
    .change ?_ own ?_ ?_⟩
  · simpa using light
  · simp
  · intro plain past ordered
    rw [tick_cell]
    exact Signal.tick_ordered policy.timings.cycleSeconds id plain ordered

theorem command_tells {c : Command} (own : c.intersection = id) (issued : c.issuedAt = now) :
    p.Tells id now (p.command c).1 := by
  obtain ⟨light, told⟩ := p.cell.signal.apply_told c
  refine ⟨(p.cell.signal.apply c).2.toList.map .change, p.note_records _ _, .change ?_ ?_ ?_ ?_⟩
  · simpa using light
  · exact fun t member => (told t member).1.trans own
  · simp
  · intro plain past ordered
    simpa using Signal.apply_ordered plain issued ordered

theorem obey_tells {command : Option Command}
    (own : ∀ c ∈ command, c.intersection = id ∧ c.issuedAt = now) :
    p.Tells id now (p.obey command) := by
  cases command with
  | none => exact .refl p
  | some c => exact command_tells (own c rfl).1 (own c rfl).2

theorem resume_tells (p : Pass) : p.Tells id now (p.resume now) := by
  refine ⟨[], by simp [resume], ?_⟩
  constructor
  case own => simp
  case light => simp [changesOf, Linked]
  case traffic => simp [decisionsOf, Linked]
  case decided => simp [decisionsOf]
  case ordered =>
    intro _ past ordered
    simpa [changesOf] using Signal.resume_ordered ordered

theorem decide_tells {e : Evaluation} (details : String)
    (signal : q.cell.signal = p.cell.signal) (records : q.records = p.records)
    (tells : e.Tells id now p.cell.traffic.kind q.cell.traffic.kind) :
    p.Tells id now (q.decide id e details now) :=
  ⟨_, congrArg (· ++ _) records, .decision rfl rfl signal tells.previous tells.current⟩

theorem settle_obey (traffic : Traffic) (e : Evaluation) (command : Option Command) :
    (p.settle traffic e).obey command = (p.obey command).settle traffic e := by
  cases command with
  | none => rfl
  | some c =>
    simp only [obey, Pass.command, settle]
    cases (p.cell.signal.apply c).2 <;> rfl

theorem evaluate_tells (p : Pass) : p.Tells id now (p.evaluate policy id now).1 := by
  have judged := p.cell.traffic.evaluate_tells policy id p.cell.snapshot (p.cell.signal.extending now) now
  generalize decided : p.cell.traffic.evaluate policy id p.cell.snapshot (p.cell.signal.extending now)
    now = outcome at judged
  obtain ⟨traffic, _ | e⟩ := outcome
  · rw [evaluate_unmoved decided]
    exact .refl p
  · have tells := judged e rfl
    have obeyed : p.Tells id now (p.obey e.command) := obey_tells tells.command
    have kind : (p.obey e.command).cell.traffic = p.cell.traffic := by
      cases e.command <;> simp [obey]
    simp only [evaluate, decided, settle_obey]
    split
    · refine (obeyed.trans (resume_tells _)).trans (decide_tells e.details rfl rfl ?_)
      simpa [kind] using tells
    · refine obeyed.trans (decide_tells e.details rfl rfl ?_)
      simpa [kind] using tells

end

end Pass

namespace Cell

variable {policy : Policy} {id : IntersectionId} {now : Instant}

theorem tells_of_pass {c : Cell} {p q : Pass} (fresh : p.records = [])
    (signal : p.cell.signal = c.signal) (traffic : p.cell.traffic = c.traffic)
    (told : p.Tells id now q) : c.Tells id now q.cell q.records := by
  obtain ⟨more, records, tells⟩ := told
  rw [records, fresh]
  exact (Tells.nothing signal traffic).trans tells

theorem ingest_tells (c : Cell) (r : Reading) :
    c.Tells r.intersection now (c.ingest policy now r).1.cell (c.ingest policy now r).1.records := by
  refine tells_of_pass (p := { cell := { c with snapshot := c.snapshot.fold r } }) rfl rfl rfl ?_
  have ticked := @Pass.tick_tells policy r.intersection now
    { cell := { c with snapshot := c.snapshot.fold r } }
  simp only [ingest]
  split
  · exact ticked.trans (Pass.evaluate_tells policy _)
  · exact ticked

theorem sweep_tells (c : Cell) :
    c.Tells id now (c.sweep policy id now).cell (c.sweep policy id now).records := by
  refine tells_of_pass (p := { cell := c }) rfl rfl rfl ?_
  have ticked := @Pass.tick_tells policy id now { cell := c }
  simp only [sweep]
  split
  · exact ticked.trans (Pass.evaluate_tells policy _)
  · exact ticked

theorem wave_tells (c : Cell) (reason : String) :
    c.Tells id now (c.wave policy id reason now).cell (c.wave policy id reason now).records := by
  refine tells_of_pass (p := { cell := c }) rfl rfl rfl ?_
  have ticked := @Pass.tick_tells policy id now { cell := c }
  simp only [wave, Pass.settle_obey]
  generalize Pass.tick policy id now { cell := c } = p at ticked
  have tells := p.cell.traffic.enterWave_tells policy id now
  have kind : (p.obey (p.cell.traffic.enterWave policy id now).2.command).cell.traffic =
      p.cell.traffic := by
    simp [Traffic.enterWave, Pass.obey]
  refine (ticked.trans (Pass.obey_tells tells.command)).trans (Pass.decide_tells _ rfl rfl ?_)
  simpa [kind] using tells

theorem hold_tells (c : Cell) (color : Color) :
    c.Tells id now (c.hold policy id color now).1.cell (c.hold policy id color now).1.records := by
  refine tells_of_pass (p := { cell := c }) rfl rfl rfl ?_
  have ticked := @Pass.tick_tells policy id now { cell := c }
  simp only [hold]
  generalize Pass.tick policy id now { cell := c } = p at ticked
  have commanded := ticked.trans
    (Pass.command_tells (p := p) (c := ⟨id, color, .manual, none, now⟩) rfl rfl)
  split
  · exact commanded.trans (Pass.decide_tells _ rfl rfl ⟨rfl, rfl, by simp⟩)
  · exact commanded

theorem stall_tells (c : Cell) (seen : Option Reading) : c.Tells id now (c.stall now seen).cell [] := by
  rcases c.signal.lapse_cases now with same | ⟨deadline, cause, mode, _, lapsed⟩
  · exact .nothing same rfl
  · refine ⟨by simp, ?_, rfl, by simp [decisionsOf], fun _ past ordered => ?_⟩
    · simp only [stall, lapsed]
      rfl
    · simp only [stall, lapsed]
      simpa [changesOf] using ordered.lapsed mode

end Cell

end Signalgrid
