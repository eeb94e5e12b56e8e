import Signalgrid.Proofs.Control.History
import Signalgrid.Proofs.Json.Decode
import Signalgrid.Proofs.Store.Agreement

set_option autoImplicit false

namespace Signalgrid

inductive Tally where
  | accepted
  | changes
  | greenWaves
  | manualChanges
  | transitions
deriving DecidableEq

namespace Tally

def counter (c : Counters) : Tally → Nat
  | .accepted => c.accepted
  | .changes => c.changes
  | .greenWaves => c.greenWaves
  | .manualChanges => c.manualChanges
  | .transitions => c.transitions

def marks : Tally → Record → Bool
  | .accepted, .event _ => true
  | .changes, .change _ => true
  | .greenWaves, .action a => a.kind = .greenWave
  | .manualChanges, .action a => a.kind = .forceChange
  | .transitions, .decision d => d.previous ≠ d.current
  | _, _ => false

/-- Counted when an operation has come to its end, and not as it goes on. -/
def atEnd : Tally → Bool
  | .changes | .transitions => false
  | _ => true

def noted (e : Effects) : Tally → Nat
  | .changes => e.changes
  | .transitions => e.transitions
  | _ => 0

end Tally

namespace Pass

/-- What has been counted is what the records stand for, and moves of the traffic that are yet to be
decided. -/
def Owes (p : Pass) (moves : Nat) : Prop :=
  ∀ t : Tally, t.noted (.ofPass p) = p.records.countP t.marks + if t = .transitions then moves else 0

section

variable {p : Pass} {moves : Nat} (owes : p.Owes moves)

theorem owes_start (c : Cell) : Owes { cell := c } 0 := by
  intro t
  cases t <;> rfl

include owes

theorem note_owes (signal : Signal) (change : Option Transition) : (p.note signal change).Owes moves := by
  intro t
  have before := owes t
  cases change with
  | none => exact before
  | some told =>
    cases t <;> simp [note, Effects.ofPass, Tally.noted, Tally.marks] at before ⊢ <;> omega

theorem tick_owes (policy : Policy) (id : IntersectionId) (now : Instant) :
    (p.tick policy id now).Owes moves := note_owes owes _ _

theorem command_owes (c : Command) : (p.command c).1.Owes moves := note_owes owes _ _

theorem obey_owes (command : Option Command) : (p.obey command).Owes moves := by
  cases command with
  | none => exact owes
  | some c => exact command_owes owes c

theorem resume_owes (now : Instant) : (p.resume now).Owes moves := owes

theorem settle_owes (traffic : Traffic) (e : Evaluation) :
    (p.settle traffic e).Owes (moves + if e.changed then 1 else 0) := by
  intro t
  have before := owes t
  cases t <;> simp [settle, Effects.ofPass, Tally.noted] at before ⊢ <;> omega

end

theorem decide_owes {p : Pass} {moves : Nat} {e : Evaluation}
    (owes : p.Owes (moves + if e.changed then 1 else 0)) (id : IntersectionId) (details : String)
    (now : Instant) : (p.decide id e details now).Owes moves := by
  intro t
  have before := owes t
  cases t with
  | transitions =>
    cases moved : e.changed with
    | true =>
      have apart : e.previous ≠ e.current := by simpa [Evaluation.changed] using moved
      simp [decide, Effects.ofPass, Tally.noted, Tally.marks, moved, apart] at before ⊢
      omega
    | false =>
      have same : e.previous = e.current := by simpa [Evaluation.changed] using moved
      simpa [decide, Effects.ofPass, Tally.noted, Tally.marks, moved, same] using before
  | _ => simpa [decide, Effects.ofPass, Tally.noted, Tally.marks] using before

theorem evaluate_owes {p : Pass} (owes : p.Owes 0) (policy : Policy) (id : IntersectionId)
    (now : Instant) : (p.evaluate policy id now).1.Owes 0 := by
  simp only [evaluate]
  split
  next => exact owes
  next traffic e _ =>
    have obeyed := obey_owes (settle_owes owes traffic e) e.command
    apply decide_owes
    split
    · exact resume_owes obeyed now
    · exact obeyed

end Pass

theorem Cell.act_owes (policy : Policy) (id : IntersectionId) (now : Instant) (c : Cell) (a : CellAct) :
    (c.act policy id now a).Owes 0 := by
  cases a with
  | ingest r =>
    have ticked := Pass.tick_owes (Pass.owes_start { c with snapshot := c.snapshot.fold r }) policy
      r.intersection now
    simp only [act, ingest]
    split
    · exact Pass.evaluate_owes ticked policy r.intersection now
    · exact ticked
  | sweep =>
    have ticked := Pass.tick_owes (Pass.owes_start c) policy id now
    simp only [act, sweep]
    split
    · exact Pass.evaluate_owes ticked policy id now
    · exact ticked
  | wave reason =>
    have ticked := Pass.tick_owes (Pass.owes_start c) policy id now
    exact Pass.decide_owes (Pass.obey_owes (Pass.settle_owes ticked _ _) _) id _ now
  | hold color =>
    have ticked := Pass.tick_owes (Pass.owes_start c) policy id now
    have commanded := Pass.command_owes ticked ⟨id, color, .manual, none, now⟩
    simp only [act, hold]
    split
    · apply Pass.decide_owes
      simpa [Evaluation.changed] using commanded
    · exact commanded
  | stall seen => exact Pass.owes_start _

namespace Effects

def Marks (e : Effects) (besides : List Record) : Prop :=
  ∀ t : Tally, e.records.countP t.marks = t.noted e + besides.countP t.marks

theorem marks_nothing : Marks {} [] := by
  intro t
  cases t <;> rfl

theorem marks_ofPass {p : Pass} (owes : p.Owes 0) : (ofPass p).Marks [] := by
  intro t
  have told := owes t
  rw [ite_self, Nat.add_zero] at told
  exact told.symm

theorem Marks.append {e f : Effects} (first : e.Marks []) (second : f.Marks []) :
    (e.append f).Marks [] := by
  intro t
  have records : (e.append f).records = e.records ++ f.records := rfl
  have noted : t.noted (e.append f) = t.noted e + t.noted f := by cases t <;> rfl
  rw [records, noted, List.countP_append, first t, second t]
  simp only [List.countP_nil, Nat.add_zero]

theorem Marks.written {e f : Effects} {more : List Record} (marks : e.Marks [])
    (records : f.records.Perm (e.records ++ more)) (changes : f.changes = e.changes)
    (transitions : f.transitions = e.transitions) : f.Marks more := by
  intro t
  have noted : t.noted f = t.noted e := by cases t <;> simp only [Tally.noted, changes, transitions]
  rw [records.countP_eq, noted, List.countP_append, marks t, List.countP_nil, Nat.add_zero]

end Effects

namespace Controller

section

variable (now : Instant)

theorem sweepCells_marks (ids : List IntersectionId) (c : Controller) {e : Effects}
    (marks : e.Marks []) : (sweepCells now ids (c, e)).2.Marks [] := by
  induction ids generalizing c e with
  | nil => exact marks
  | cons id rest ih =>
    rw [sweepCells]
    cases c.cell? id with
    | none => exact ih c marks
    | some cell =>
      have swept := cell.act_owes c.policy id now .sweep
      exact ih _ (marks.append (Effects.marks_ofPass swept))

theorem waveCells_marks (reason : String) (cells : List (IntersectionId × Cell)) (c : Controller)
    {e : Effects} (marks : e.Marks []) : (waveCells reason now cells (c, e)).2.Marks [] := by
  induction cells generalizing c e with
  | nil => exact marks
  | cons entry rest ih =>
    have waved := entry.2.act_owes c.policy entry.1 now (.wave reason)
    exact ih _ (marks.append (Effects.marks_ofPass waved))

variable {now} {c c' : Controller} {e : Effects}

theorem ingest_marks {r : Reading} {outcome : IngestOutcome}
    (done : c.ingest now r = .ok (c', e, outcome)) : e.Marks [.event r] := by
  cases found : c.cell? r.intersection with
  | none =>
    rw [ingest, need, found] at done
    cases done
  | some cell =>
    have kept := ingest_found c now r found
    rw [done] at kept
    obtain ⟨rfl, rfl, _⟩ := kept
    have marks := Effects.marks_ofPass (cell.act_owes c.policy r.intersection now (.ingest r))
    exact marks.written (List.perm_append_singleton _ _).symm rfl rfl

theorem wave_marks {route : Route} {reason requestedBy : String} {outcome : WaveOutcome}
    (done : c.wave now route reason requestedBy = .ok (c', e, outcome)) :
    ∃ act : Override, act.kind = .greenWave ∧ e.Marks [.action act] := by
  obtain ⟨affected, expanded, rest⟩ := bind_ok done
  obtain ⟨cells, gathered, rest⟩ := bind_ok rest
  have marks := waveCells_marks now reason cells c Effects.marks_nothing
  obtain ⟨_, left⟩ := Prod.mk.inj (Except.ok.inj rest)
  obtain ⟨rfl, _⟩ := Prod.mk.inj left
  exact ⟨_, rfl, marks.written (.refl _) rfl rfl⟩

theorem hold_marks {name requestedBy : String} {color : Color} {outcome : HoldOutcome}
    (done : c.hold now name color requestedBy = .ok (c', e, outcome)) :
    ∃ act : Override, act.kind = .forceChange ∧
      e.Marks (if outcome.applied then [.action act] else []) := by
  obtain ⟨id, resolved, rest⟩ := bind_ok done
  obtain ⟨cell, found, rest⟩ := bind_ok rest
  have marks : (Effects.ofPass (cell.hold c.policy id color now).1).Marks [] :=
    Effects.marks_ofPass (cell.act_owes c.policy id now (.hold color))
  dsimp only at rest
  generalize cell.hold c.policy id color now = held at marks rest
  obtain ⟨p, applied⟩ := held
  cases rest
  refine ⟨holdAct id color requestedBy now, rfl, ?_⟩
  cases applied with
  | true => exact marks.written (.refl _) rfl rfl
  | false => exact marks

end

end Controller

namespace Tally

variable (t : Tally)

theorem counter_recordAll (rs : List Record) (a : Archive) :
    t.counter (a.recordAll rs).counters = t.counter a.counters := by
  obtain ⟨writes, failures, skipped, counters⟩ := a.recordAll_counters rs
  rw [counters]
  cases t <;> rfl

theorem counter_absorb (a : Archive) (e : Effects) :
    t.counter (a.absorb e).counters = t.counter a.counters + t.noted e := by
  rw [Archive.absorb, counter_recordAll, Archive.alerts_eq]
  cases t <;> rfl

end Tally

namespace ControlRoom

def Tallied (s s' : ControlRoom) (rs : List Record) : Prop :=
  ∀ t : Tally, t.counter s'.archive.counters = t.counter s.archive.counters + rs.countP t.marks

section

variable {s s' : ControlRoom} {now : Instant}

theorem Tallied.aside {f : Counters → Counters} (aside : ∀ t : Tally, ∀ c, t.counter (f c) = t.counter c) :
    s.Tallied (s.count f) [] := fun t => aside t s.archive.counters

theorem Tallied.install {f : Counters → Counters} {c : Controller} {e : Effects} {more : List Record}
    (counted : ∀ t : Tally, ∀ c, t.counter (f c) = t.counter c + more.countP t.marks)
    (marks : e.Marks more) : s.Tallied ((s.count f).install c e) e.records := by
  intro t
  rw [marks t, ControlRoom.install, t.counter_absorb]
  have moved := counted t s.archive.counters
  simp only [ControlRoom.count, Archive.count, moved]
  omega

theorem noteFault_tallied (s : ControlRoom) (name : String) : s.Tallied (s.noteFault name) [] := by
  unfold noteFault
  split
  · exact fun t => rfl
  · exact .aside fun t c => by cases t <;> rfl

theorem ingest_tallied {r : Reading} (done : (s.ingest now r).map Prod.snd = .ok s') :
    s.Tallied s' (s.controller.kept (s.controller.ingest now r)).2.records := by
  unfold ingest at done
  split at done
  next c e outcome kept =>
    rw [guardTick_left done, kept]
    exact .install (fun t c => by cases t <;> rfl) (Controller.ingest_marks kept)
  next fault kept =>
    cases done
    rw [kept]
    exact fun t => rfl

theorem wave_tallied {route : Route} {reason requestedBy : String}
    (done : (s.wave now route reason requestedBy).map Prod.snd = .ok s') :
    s.Tallied s' (s.controller.kept (s.controller.wave now route reason requestedBy)).2.records := by
  unfold wave at done
  split at done
  next c e outcome kept =>
    obtain ⟨act, wave, marks⟩ := Controller.wave_marks kept
    rw [guardTick_left done, kept]
    exact .install (fun t c => by cases t <;> simp [Tally.counter, Tally.marks, wave]) marks
  next fault kept =>
    cases done
    rw [kept]
    exact fun t => rfl

theorem hold_tallied {name : String} {color : Color} {requestedBy : String}
    (done : (s.hold now name color requestedBy).map Prod.snd = .ok s') :
    s.Tallied s' (s.controller.kept (s.controller.hold now name color requestedBy)).2.records := by
  unfold hold at done
  split at done
  next c e outcome kept =>
    obtain ⟨act, manual, marks⟩ := Controller.hold_marks kept
    rw [guardTick_left done, kept]
    by_cases applied : outcome.applied
    · rw [if_pos applied] at marks ⊢
      exact .install (fun t c => by cases t <;> simp [Tally.counter, Tally.marks, manual]) marks
    · rw [if_neg applied] at marks ⊢
      exact Tallied.install (f := id) (fun t c => rfl) marks
  next fault kept =>
    cases done
    rw [kept]
    exact s.noteFault_tallied name

theorem view_tallied {name : String} (done : (s.view now name).map Prod.snd = .ok s') :
    s.Tallied s' [] := by
  unfold view at done
  split at done
  · split at done
    · cases done
      exact fun t => rfl
    · cases done
  · cases done
    exact s.noteFault_tallied name

theorem attempt_tallied {op : Operation} (done : s.attempt now op = some s') :
    s.Tallied s' (s.controller.operate now op).2.records := by
  rw [attempt_some] at done
  cases op with
  | line text =>
    simp only [undertake, ingestLine] at done
    simp only [Controller.operate]
    cases parsed : SensorLine.parse s.controller.grid text with
    | accepted r =>
      rw [parsed] at done
      exact ingest_tallied done
    | rejected fault =>
      rw [parsed] at done
      cases done
      exact .aside fun t c => by cases t <;> cases fault <;> rfl
    | overflow =>
      rw [parsed] at done
      cases done
  | reading r => exact ingest_tallied done
  | sweep =>
    rw [guardTick_left done]
    have marks := Controller.sweepCells_marks now s.controller.grid.ids s.controller Effects.marks_nothing
    exact Tallied.install (f := id) (fun t c => rfl) marks
  | wave route reason requestedBy => exact wave_tallied done
  | hold name color requestedBy => exact hold_tallied done
  | status name => exact view_tallied done

end

def Unstopped : ControlRoom → List (Instant × Operation) → Prop
  | _, [] => True
  | s, (now, op) :: rest =>
      (now.isFinalLeap = true → (s.attempt now op).isSome) ∧ Unstopped (s.perform now op) rest

theorem unstopped_inside {s : ControlRoom} {steps : List (Instant × Operation)}
    (inside : ∀ step ∈ steps, step.1.isFinalLeap = false) : s.Unstopped steps := by
  induction steps generalizing s with
  | nil => trivial
  | cons step rest ih =>
    obtain ⟨first, later⟩ := List.forall_mem_cons.mp inside
    exact ⟨fun final => by simp [first] at final, ih later⟩

theorem perform_tallied (s : ControlRoom) (now : Instant) (op : Operation) (t : Tally)
    (told : t.atEnd = true ∨ (now.isFinalLeap = true → (s.attempt now op).isSome)) :
    t.counter (s.perform now op).archive.counters =
      t.counter s.archive.counters + (s.left now op).countP t.marks := by
  cases attempted : s.attempt now op with
  | some s' => simpa [perform_done attempted, left, attempted] using attempt_tallied attempted t
  | none =>
    rw [left, attempted]
    cases final : now.isFinalLeap with
    | false =>
      rw [s.perform_stopped_inside final attempted]
      rfl
    | true =>
      have atEnd : t.atEnd = true := told.resolve_right fun whole => by simp [attempted, final] at whole
      obtain ⟨n, m, stopped⟩ := perform_stopped attempted
      rw [stopped, install, t.counter_absorb]
      cases t <;> first | rfl | cases atEnd

theorem run_tallied {s : ControlRoom} {past : List Record} {steps : List (Instant × Operation)}
    (accepts : s.Accepts steps) (holds : s.archive.replica.Holds past) :
    ∃ rs, (s.run steps).archive.replica.Holds (past ++ rs) ∧
      ∀ t : Tally, t.atEnd = true ∨ s.Unstopped steps →
        t.counter (s.run steps).archive.counters = t.counter s.archive.counters + rs.countP t.marks := by
  induction steps generalizing s past with
  | nil => exact ⟨[], by rwa [List.append_nil], fun t _ => rfl⟩
  | cons step rest ih =>
    obtain ⟨now, op⟩ := step
    -- What the first operation leaves joins the past, and the rest is stored behind it.
    obtain ⟨more, stored, tallied⟩ := ih accepts.2 (s.perform_holds now op holds accepts.1)
    refine ⟨s.left now op ++ more, ?_, fun t told => ?_⟩
    · rw [← List.append_assoc]
      exact stored
    · rw [run_cons, tallied t (told.imp_right And.right), s.perform_tallied now op t (told.imp_right And.left),
        List.countP_append, Nat.add_assoc]

end ControlRoom

theorem Totals.foldl_marks (rs : List Record) (sum : Totals) :
    (rs.foldl add sum).events = sum.events + rs.countP (Tally.marks .accepted) ∧
      (rs.foldl add sum).changes = sum.changes + rs.countP (Tally.marks .changes) ∧
      (rs.foldl add sum).greenWaves = sum.greenWaves + rs.countP (Tally.marks .greenWaves) := by
  induction rs generalizing sum with
  | nil => exact ⟨rfl, rfl, rfl⟩
  | cons r rest ih =>
    obtain ⟨events, changes, waves⟩ := ih (sum.add r)
    rw [List.foldl_cons, events, changes, waves]
    cases r with
    | event r | change t =>
      simp [add, Tally.marks, List.countP_cons]
      omega
    | decision d => by_cases congested : d.current = .congestion <;> simp [add, Tally.marks, congested]
    | action a =>
      by_cases wave : a.kind = .greenWave
      · simp [add, Tally.marks, wave]
        omega
      · simp [add, Tally.marks, wave]

namespace Store

def Totalled : Store → Prop
  | .log l => l.totals = Totals.ofRecords l.records
  | .tables _ => True
  | .remote _ => False

theorem Totalled.insert {s : Store} (totalled : s.Totalled) (r : Record) : (s.insert r).2.Totalled := by
  cases s with
  | log l =>
    have kept : l.totals = Totals.ofRecords l.records := totalled
    cases available : l.available with
    | false => simpa [Store.insert, LogStore.insert, available] using totalled
    | true => simp [Store.insert, LogStore.insert, available, Totalled, kept, Totals.ofRecords]
  | tables t => trivial
  | remote m => exact totalled.elim

theorem Holds.totals {s : Store} {rs : List Record} (holds : s.Holds rs) (totalled : s.Totalled)
    (ready : s.Ready) : (s.query .totals).1 = .ok (.totals (Totals.ofRecords rs)) := by
  cases holds with
  | log l =>
    have available : l.available = true := ready
    have kept : l.totals = Totals.ofRecords l.records := totalled
    simp [query, LogStore.query, LogStore.answer, available, kept]
  | tables name => rw [query, TableStore.query, TableStore.totals_foldl]

end Store

namespace ControlRoom

theorem start?_uncounted {settings : Settings} {replica primary : Store} {start : Instant}
    {room : ControlRoom} (ready : start? settings replica primary start = some room) :
    room.archive.counters = {} := by
  simp only [start?, Option.map_eq_some_iff] at ready
  obtain ⟨archive, opened, rfl⟩ := ready
  unfold Archive.start? at opened
  split at opened
  · cases opened
    rfl
  · cases opened

theorem run_totals {s : ControlRoom} (ready : s.archive.replica.Ready)
    (totalled : s.archive.replica.Totalled) {steps : List (Instant × Operation)} {rs : List Record}
    (holds : (s.run steps).archive.replica.Holds rs) :
    ((s.run steps).archive.replica.query .totals).1 = .ok (.totals (Totals.ofRecords rs)) :=
  holds.totals (run_keeps Store.Totalled (fun _ r summed => summed.insert r) totalled steps)
    (run_ready ready steps)

/-- The counters tell what the records tell, unless the final leap second stops an operation
on its way. -/
theorem tallies_agree {settings : Settings} {replica primary : Store} {start : Instant}
    {room : ControlRoom} (ready : start? settings replica primary start = some room)
    {old : List Record} (holds : replica.Holds old) (totalled : replica.Totalled)
    {steps : List (Instant × Operation)} (accepts : room.Accepts steps) :
    let after := room.run steps
    let c := after.archive.counters
    let before := Totals.ofRecords old
    ∃ rs, after.archive.replica.Holds (old ++ rs) ∧
      c.manualChanges = (rs.filterMap Record.action?).countP (·.kind = .forceChange) ∧
      (room.Unstopped steps →
        c.transitions = (rs.filterMap Record.decision?).countP (fun d => d.previous ≠ d.current)) ∧
      (replica.Ready →
        ∃ totals, (after.archive.replica.query .totals).1 = .ok (.totals totals) ∧
          totals.events = before.events + c.accepted ∧
          (room.Unstopped steps → totals.changes = before.changes + c.changes) ∧
          totals.greenWaves = before.greenWaves + c.greenWaves) := by
  intro after c before
  obtain ⟨_, kept⟩ := start?_fresh ready
  rw [← kept] at holds totalled
  obtain ⟨rs, stored, tallied⟩ := run_tallied accepts holds
  have counted (t : Tally) (told : t.atEnd = true ∨ room.Unstopped steps) : t.counter c = rs.countP t.marks := by
    have moved := tallied t told
    rw [start?_uncounted ready] at moved
    cases t <;> exact moved.trans (Nat.zero_add _)
  refine ⟨rs, stored, ?_, fun unstopped => ?_, fun there => ?_⟩
  · rw [List.countP_filterMap]
    refine (counted .manualChanges (.inl rfl)).trans (congrArg (List.countP · rs) (funext fun r => ?_))
    cases r <;> rfl
  · rw [List.countP_filterMap]
    refine (counted .transitions (.inr unstopped)).trans (congrArg (List.countP · rs) (funext fun r => ?_))
    cases r <;> rfl
  · rw [← kept] at there
    obtain ⟨events, changes, waves⟩ := Totals.foldl_marks rs before
    refine ⟨_, run_totals there totalled stored, ?_, fun unstopped => ?_, ?_⟩
    · rw [Totals.ofRecords, List.foldl_append, ← Totals.ofRecords, events]
      exact congrArg (before.events + ·) (counted .accepted (.inl rfl)).symm
    · rw [Totals.ofRecords, List.foldl_append, ← Totals.ofRecords, changes]
      exact congrArg (before.changes + ·) (counted .changes (.inr unstopped)).symm
    · rw [Totals.ofRecords, List.foldl_append, ← Totals.ofRecords, waves]
      exact congrArg (before.greenWaves + ·) (counted .greenWaves (.inl rfl)).symm

theorem tallies_agree_after_wave :
    let settings : Settings := { rows := ["A"], columns := [1] }
    let steps : List (Instant × Operation) :=
      [(Instant.epoch.after 1, .hold "INT-A1" .green "operator"),
        (Instant.epoch.after 5, .wave (.row "A") "ambulance" "operator"),
        (Instant.epoch.after 60, .sweep)]
    ∃ room totals,
      start? settings (.log { name := "replica" }) (.log { name := "primary" }) .epoch = some room ∧
        room.Unstopped steps ∧
        ((room.run steps).archive.replica.query .totals).1 = .ok (.totals totals) ∧
        totals.changes = 3 ∧ totals.greenWaves = 1 := by
  intro settings steps
  have unstopped : (onLogs settings .epoch).Unstopped steps := unstopped_inside (by decide)
  obtain ⟨rs, _, _, _, told⟩ := @tallies_agree settings (.log { name := "replica" })
    (.log { name := "primary" }) .epoch _ (start?_onLogs (by decide) _) [] (.log _) rfl steps
    (@accepts_of_ready (onLogs settings .epoch) rfl steps)
  obtain ⟨totals, answered, _, changes, waves⟩ := told rfl
  refine ⟨_, totals, start?_onLogs (by decide) _, unstopped, answered, ?_, ?_⟩
  · rw [changes unstopped]
    decide +kernel
  · rw [waves]
    decide +kernel

theorem changes_outnumber_records :
    ∃ room steps totals, start? { rows := ["A"], columns := [1, 2] } (.log { name := "replica" })
        (.log { name := "primary" }) ⟨8210266876750, 0, by decide, by decide, by decide, by decide⟩ = some room ∧
      room.Accepts steps ∧
      ((room.run steps).archive.replica.query .totals).1 = .ok (.totals totals) ∧
      totals.changes = 1 ∧ (room.run steps).archive.counters.changes = 2 := by
  let asked : Instant := ⟨8210266876755, 0, by decide, by decide, by decide, by decide⟩
  let final : Instant := ⟨8210266876799, 1000000000, by decide, by decide, by decide, by decide⟩
  let steps : List (Instant × Operation) :=
    [(asked, .wave (.intersections ["INT-A2"]) "ambulance" "operator"), (final, .sweep)]
  let room : ControlRoom :=
    .onLogs { rows := ["A"], columns := [1, 2] } ⟨8210266876750, 0, by decide, by decide, by decide, by decide⟩
  have ready : room.archive.replica.Ready := rfl
  have totalled : room.archive.replica.Totalled := rfl
  have accepts : room.Accepts steps := accepts_of_ready ready steps
  obtain ⟨rs, stored, _⟩ := run_tallied accepts (.log { name := "replica" })
  have contents := stored.contents (by decide +kernel)
  refine ⟨room, steps, _, start?_onLogs (by decide) _, accepts, run_totals ready totalled stored, ?_,
    by decide +kernel⟩
  rw [← contents]
  decide +kernel

end ControlRoom

end Signalgrid
