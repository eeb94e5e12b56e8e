import Signalgrid.Proofs.Control.Extensions
import Signalgrid.Proofs.Control.Tallies

set_option autoImplicit false

namespace Signalgrid

structure Decided where
  action : Action
  traffic : TrafficKind
deriving DecidableEq

def Decided.Suits (d : Decided) : Prop :=
  match d.action with
  | .none => d.traffic = .normal
  | .extendGreen => d.traffic = .congestion
  | .greenWave => d.traffic = .greenWave
  | .forceChange => True

def decidedOf (rs : List Record) : List Decided :=
  (rs.filterMap Record.decision?).map fun d => ⟨d.action, d.current⟩

theorem decidedOf_append (rs more : List Record) : decidedOf (rs ++ more) = decidedOf rs ++ decidedOf more := by
  rw [decidedOf, List.filterMap_append, List.map_append]
  rfl

theorem decidedOf_changes (changes : List Transition) : decidedOf (changes.map Record.change) = [] := by
  induction changes with
  | nil => rfl
  | cons t rest ih => exact ih

theorem Plan.decidedOf_written (p : Plan) (rs : List Record) : decidedOf (p.written rs) = decidedOf rs := by
  rw [decidedOf, p.filterMap_written rs (fun _ => rfl) fun _ => rfl]
  rfl

theorem countP_congestion {ds : List Decided} (suits : ∀ d ∈ ds, d.Suits) :
    ds.countP (·.traffic = .congestion) =
      ds.countP (·.action = .extendGreen) + ds.count ⟨.forceChange, .congestion⟩ := by
  induction ds with
  | nil => rfl
  | cons d rest ih =>
    obtain ⟨first, later⟩ := List.forall_mem_cons.mp suits
    rw [List.countP_cons, List.countP_cons, List.count_cons, ih later]
    obtain ⟨action, traffic⟩ := d
    cases action <;> simp only [Decided.Suits] at first
    case forceChange => cases traffic <;> simp [Nat.add_assoc]
    all_goals
      subst first
      simp
    omega

theorem Totals.congestions_decided (old rs : List Record) :
    (ofRecords (old ++ rs)).congestions =
      (ofRecords old).congestions + (decidedOf rs).countP (·.traffic = .congestion) := by
  rw [ofRecords, List.foldl_append, foldl_add, decidedOf, List.countP_map, ← List.countP_eq_length_filter]
  rfl

theorem Traffic.evaluate_current {p : Policy} {id : IntersectionId} {t traffic : Traffic} {s : Snapshot}
    {extending : Bool} {now : Instant} {e : Evaluation}
    (judged : t.evaluate p id s extending now = (traffic, some e)) :
    e.current = traffic.kind ∧ Decided.Suits ⟨e.action, traffic.kind⟩ := by
  have outcome := t.evaluate_judged p id s extending now
  generalize p.thresholds.judge s = verdict at outcome
  rw [judged] at outcome
  generalize decided : (traffic, some e) = result at outcome
  cases outcome with
  | unmoved => cases decided
  | waveOver => cases verdict <;> cases decided <;> exact ⟨rfl, rfl⟩
  | detected =>
    cases decided
    exact ⟨rfl, rfl⟩
  | persisting congested =>
    cases decided
    exact ⟨congested.symm, congested⟩
  | relieved =>
    cases decided
    exact ⟨rfl, rfl⟩

namespace Pass

def decided (evaluated : Pass × Option Action) : Option Decided :=
  evaluated.2.map (⟨·, evaluated.1.cell.traffic.kind⟩)

theorem note_decided (p : Pass) (signal : Signal) (change : Option Transition) :
    decidedOf (p.note signal change).records = decidedOf p.records := by
  rw [note_records, decidedOf_append, decidedOf_changes, List.append_nil]

theorem tick_decided (policy : Policy) (id : IntersectionId) (now : Instant) (p : Pass) :
    decidedOf (p.tick policy id now).records = decidedOf p.records := p.note_decided _ _

theorem obey_decided (p : Pass) (command : Option Command) :
    decidedOf (p.obey command).records = decidedOf p.records := by
  cases command with
  | none => rfl
  | some c => exact p.note_decided _ _

theorem decide_decided (p : Pass) (id : IntersectionId) (e : Evaluation) (details : String)
    (now : Instant) :
    decidedOf (p.decide id e details now).records = decidedOf p.records ++ [⟨e.action, e.current⟩] :=
  decidedOf_append _ _

theorem evaluate_decided (p : Pass) (policy : Policy) (id : IntersectionId) (now : Instant) :
    decidedOf (p.evaluate policy id now).1.records =
        decidedOf p.records ++ (decided (p.evaluate policy id now)).toList ∧
      ∀ d ∈ decided (p.evaluate policy id now), d.Suits := by
  rcases judged : p.cell.traffic.evaluate policy id p.cell.snapshot (p.cell.signal.extending now) now with
    ⟨traffic, decision⟩
  cases decision with
  | none =>
    rw [evaluate_unmoved judged]
    simp [decided]
  | some e =>
    obtain ⟨current, suits⟩ := Traffic.evaluate_current judged
    have kind : (p.evaluate policy id now).1.cell.traffic.kind = traffic.kind := by
      rw [evaluate_traffic, judged]
    have action : (p.evaluate policy id now).2 = some e.action := by simp [evaluate, judged]
    rw [evaluate_records judged, decidedOf_append, obey_decided, decided, action, Option.map_some, kind]
    refine ⟨by simp [decidedOf, Record.decision?, current], ?_⟩
    rintro d ⟨⟩
    exact suits

end Pass

namespace Cell

variable (policy : Policy) (id : IntersectionId) (now : Instant)

def decided (c : Cell) : CellAct → Option Decided
  | .ingest r => Pass.decided (c.ingest policy now r)
  | .sweep =>
      let p := Pass.tick policy id now { cell := c }
      if p.cell.traffic.kind = .greenWave ∧ !p.cell.traffic.waveActive now then
        Pass.decided (p.evaluate policy id now)
      else none
  | .wave _ => some ⟨.greenWave, .greenWave⟩
  | .hold color => if (c.hold policy id color now).2 then some ⟨.forceChange, c.traffic.kind⟩ else none
  | .stall _ => none

theorem act_decided (c : Cell) (a : CellAct) :
    decidedOf (c.act policy id now a).records = (c.decided policy id now a).toList ∧
      ∀ d ∈ c.decided policy id now a, d.Suits := by
  have ticked (id : IntersectionId) (c : Cell) :
      decidedOf (Pass.tick policy id now { cell := c }).records = [] :=
    Pass.tick_decided policy id now { cell := c }
  cases a with
  | ingest r =>
    have start := ticked r.intersection { c with snapshot := c.snapshot.fold r }
    simp only [act, decided, ingest]
    split
    next =>
      have evaluated := Pass.evaluate_decided (Pass.tick policy r.intersection now
        { cell := { c with snapshot := c.snapshot.fold r } }) policy r.intersection now
      rwa [start, List.nil_append] at evaluated
    next => exact ⟨start, fun d entered => absurd entered (Option.not_mem_none d)⟩
  | sweep =>
    have start := ticked id c
    simp only [act, decided, sweep]
    split
    next =>
      have evaluated := (Pass.tick policy id now { cell := c }).evaluate_decided policy id now
      rwa [start, List.nil_append] at evaluated
    next => exact ⟨start, fun d entered => absurd entered (Option.not_mem_none d)⟩
  | wave reason =>
    have start := ticked id c
    refine ⟨?_, fun d entered => ?_⟩
    · simp only [act, wave, decided]
      rw [Pass.decide_decided, Pass.obey_decided]
      exact congrArg (· ++ _) start
    · cases entered
      exact rfl
  | hold color =>
    have start := ticked id c
    have commanded : decidedOf ((Pass.tick policy id now { cell := c }).command
        ⟨id, color, .manual, none, now⟩).1.records = [] := (Pass.note_decided _ _ _).trans start
    simp only [act, decided, hold]
    split
    next =>
      rw [Pass.decide_decided, commanded]
      simp [Decided.Suits]
    next => simp [commanded]
  | stall seen => exact ⟨rfl, fun d entered => absurd entered (Option.not_mem_none d)⟩

end Cell

namespace Controller

def decidedOver (now : Instant) : Controller → List (IntersectionId × CellAct) → List Decided
  | _, [] => []
  | c, v :: rest =>
      ((c.cell? v.1).bind fun cell => cell.decided c.policy v.1 now v.2).toList ++
        decidedOver now (c.visit now v).1 rest

def decided (c : Controller) (now : Instant) (op : Operation) : List Decided :=
  ((c.plan now op).map fun p => c.decidedOver now p.visits).getD []

section

variable (now : Instant)

theorem visit_decided (c : Controller) (v : IntersectionId × CellAct) :
    decidedOf (c.visit now v).2 =
        ((c.cell? v.1).bind fun cell => cell.decided c.policy v.1 now v.2).toList ∧
      ∀ d ∈ decidedOf (c.visit now v).2, d.Suits := by
  cases found : c.cell? v.1 with
  | none =>
    rw [visit_missing now found]
    exact ⟨rfl, List.forall_mem_nil _⟩
  | some cell =>
    obtain ⟨told, suits⟩ := cell.act_decided c.policy v.1 now v.2
    rw [visit_found now found, told]
    exact ⟨rfl, fun d listed => suits d (Option.mem_toList.mp listed)⟩

theorem goOver_decided (c : Controller) (visits : List (IntersectionId × CellAct)) :
    decidedOf (c.goOver now visits).2 = c.decidedOver now visits ∧
      ∀ d ∈ c.decidedOver now visits, d.Suits := by
  induction visits generalizing c with
  | nil => exact ⟨rfl, List.forall_mem_nil _⟩
  | cons v rest ih =>
    obtain ⟨first, suits⟩ := c.visit_decided now v
    obtain ⟨later, others⟩ := ih (c.visit now v).1
    rw [decidedOver, ← first]
    exact ⟨by rw [goOver, decidedOf_append, later], List.forall_mem_append.mpr ⟨suits, others⟩⟩

theorem operate_decided (c : Controller) (op : Operation) :
    decidedOf (c.operate now op).2.records = c.decided now op ∧ ∀ d ∈ c.decided now op, d.Suits := by
  have follows := c.operate_follows now op
  unfold decided
  cases planned : c.plan now op with
  | none =>
    rw [planned] at follows
    rw [follows]
    exact ⟨rfl, List.forall_mem_nil _⟩
  | some p =>
    rw [planned] at follows
    rw [follows.2, p.decidedOf_written]
    exact c.goOver_decided now p.visits

end

end Controller

namespace ControlRoom

def decided : ControlRoom → List (Instant × Operation) → List Decided
  | _, [] => []
  | s, (now, op) :: rest =>
      (if (s.attempt now op).isSome then s.controller.decided now op else []) ++
        (s.perform now op).decided rest

theorem run_decided {s : ControlRoom} {past : List Record} {steps : List (Instant × Operation)}
    (accepts : s.Accepts steps) (holds : s.archive.replica.Holds past) :
    ∃ rs, (s.run steps).archive.replica.Holds (past ++ rs) ∧ decidedOf rs = s.decided steps ∧
      ∀ d ∈ s.decided steps, d.Suits := by
  induction steps generalizing s past with
  | nil => exact ⟨[], by rwa [List.append_nil], rfl, List.forall_mem_nil _⟩
  | cons step rest ih =>
    obtain ⟨now, op⟩ := step
    obtain ⟨told, suits⟩ := s.controller.operate_decided now op
    -- What the first operation leaves joins the past, and the rest is stored behind it.
    obtain ⟨more, stored, later, others⟩ := ih accepts.2 (s.perform_holds now op holds accepts.1)
    refine ⟨s.left now op ++ more, by rwa [← List.append_assoc], ?_, ?_⟩
    · rw [decided, decidedOf_append, later, left]
      split
      · rw [told]
      · rfl
    · rw [decided]
      refine List.forall_mem_append.mpr ⟨?_, others⟩
      split
      · exact suits
      · exact List.forall_mem_nil _

/-- Besides detections the total counts the holds that were put in place in congestion. -/
theorem congestions_exact {settings : Settings} {replica primary : Store} {start : Instant}
    {room : ControlRoom} (ready : start? settings replica primary start = some room)
    {old : List Record} (holds : replica.Holds old) (totalled : replica.Totalled) (there : replica.Ready)
    (steps : List (Instant × Operation)) :
    let before := (Totals.ofRecords old).congestions
    let found := (room.decided steps).countP (·.action = .extendGreen)
    let held := (room.decided steps).count ⟨.forceChange, .congestion⟩
    ∃ rs totals, (room.run steps).archive.replica.Holds (old ++ rs) ∧
      ((room.run steps).archive.replica.query .totals).1 = .ok (.totals totals) ∧
      decidedOf rs = room.decided steps ∧ (∀ d ∈ room.decided steps, d.Suits) ∧
      (rs.filterMap Record.decision?).countP (·.action = .extendGreen) = found ∧
      totals.congestions = before + found + held ∧
      (totals.congestions = before + found ↔ ⟨.forceChange, .congestion⟩ ∉ room.decided steps) := by
  intro before found held
  obtain ⟨_, kept⟩ := start?_fresh ready
  rw [← kept] at holds totalled there
  obtain ⟨rs, stored, told, suits⟩ := run_decided (accepts_of_ready there steps) holds
  have extensions : (rs.filterMap Record.decision?).countP (·.action = .extendGreen) = found := by
    rw [show found = (decidedOf rs).countP (·.action = .extendGreen) by rw [told], decidedOf,
      List.countP_map]
    rfl
  have total : (Totals.ofRecords (old ++ rs)).congestions = before + found + held := by
    rw [Totals.congestions_decided, told, countP_congestion suits, Nat.add_assoc]
  refine ⟨rs, _, stored, run_totals there totalled stored, told, suits, extensions, total, ?_⟩
  rw [total, Nat.add_eq_left, List.count_eq_zero]

theorem congestions_exact_on_wave :
    let settings : Settings := { rows := ["A"], columns := [1] }
    let steps : List (Instant × Operation) :=
      [(.epoch, .reading ⟨"INT-A1", "CAM-A1", .epoch, .queue 20 10.0⟩),
        (Instant.epoch.after 1, .wave (.row "A") "ambulance" "operator"),
        (Instant.epoch.after 2, .hold "INT-A1" .red "operator"),
        (Instant.epoch.after 40, .sweep)]
    ∃ room totals,
      start? settings (.log { name := "replica" }) (.log { name := "primary" }) .epoch = some room ∧
        ((room.run steps).archive.replica.query .totals).1 = .ok (.totals totals) ∧
        room.decided steps = [⟨.extendGreen, .congestion⟩, ⟨.greenWave, .greenWave⟩,
          ⟨.forceChange, .greenWave⟩, ⟨.extendGreen, .congestion⟩] ∧
        totals.congestions = 2 := by
  intro settings steps
  have ready := @start?_onLogs settings (by decide) .epoch
  have told : (onLogs settings .epoch).decided steps =
      [⟨.extendGreen, .congestion⟩, ⟨.greenWave, .greenWave⟩, ⟨.forceChange, .greenWave⟩,
        ⟨.extendGreen, .congestion⟩] := by
    decide +kernel
  obtain ⟨rs, totals, _, answered, _, _, _, total, _⟩ :=
    congestions_exact ready (.log { name := "replica" }) rfl rfl steps
  rw [told] at total
  exact ⟨_, totals, ready, answered, told, total⟩

theorem hold_told_as_detection :
    let settings : Settings := { rows := ["A"], columns := [1] }
    let steps : List (Instant × Operation) :=
      [(.epoch, .reading ⟨"INT-A1", "CAM-A1", .epoch, .queue 20 10.0⟩),
        (Instant.epoch.after 1, .hold "INT-A1" .red "operator")]
    ∃ room totals,
      start? settings (.log { name := "replica" }) (.log { name := "primary" }) .epoch = some room ∧
        room.Accepts steps ∧
        ((room.run steps).archive.replica.query .totals).1 = .ok (.totals totals) ∧
        (room.decided steps).countP (·.action = .extendGreen) = 1 ∧ totals.congestions = 2 := by
  intro settings steps
  have ready := @start?_onLogs settings (by decide) .epoch
  have summary : (((onLogs settings .epoch).run steps).archive.replica.query .totals).1.toOption.map
      (fun reply => reply.totals?.toOption.map Totals.congestions) = some (some 2) := by
    decide +kernel
  generalize answered : (((onLogs settings .epoch).run steps).archive.replica.query .totals).1 = answer
    at summary
  cases answer with
  | error e => cases summary
  | ok reply =>
    cases reply with
    | totals t =>
      have two : t.congestions = 2 := Option.some.inj (Option.some.inj summary)
      exact ⟨_, t, ready, @accepts_of_ready (onLogs settings .epoch) rfl steps, answered,
        by decide +kernel, two⟩
    | _ => cases summary

end ControlRoom

end Signalgrid
