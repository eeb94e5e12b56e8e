import Signalgrid.Proofs.Control.Counts
import Signalgrid.Proofs.Control.Extensions
import Signalgrid.Proofs.Control.WaveWindow

set_option autoImplicit false

namespace Signalgrid

def Signal.HeldAt (s : Signal) (color : Color) : Prop := s.mode = .held ∧ s.color = color

namespace Signal.HeldAt

variable {s : Signal} {color : Color} (held : s.HeldAt color)

include held

theorem canTick (cycle : Span) (now : Instant) : s.canTick cycle now = true := by
  simp [Signal.canTick, lapse, held.1]

theorem idle (now : Instant) : s.extending now = false := by
  simp [extending, held.1]

theorem apply_again {c : Command} (untimed : c.seconds = none) (same : c.target = color) :
    s.apply c = (s, none) := by
  simp [apply, Command.mode, untimed, held.1, held.2, same]

end Signal.HeldAt

def CellAct.Spares (color : Color) : CellAct → Prop
  | .wave _ => False
  | .hold other => other = color
  | _ => True

namespace Cell

variable {c : Cell} {color : Color} (held : c.signal.HeldAt color)

include held

theorem evaluate_held {p : Pass} (policy : Policy) (id : IntersectionId) (now : Instant)
    (same : p.cell.signal = c.signal) :
    (p.evaluate policy id now).1.cell.signal = c.signal ∨
      ∃ t, .change t ∈ (p.evaluate policy id now).1.records ∧ t.Extends id := by
  have idle : p.cell.signal.extending now = false := by
    rw [same]
    exact held.idle now
  have judged := p.cell.traffic.evaluate_judged policy id p.cell.snapshot
    (p.cell.signal.extending now) now
  generalize policy.thresholds.judge p.cell.snapshot = verdict at judged
  generalize decided : p.cell.traffic.evaluate policy id p.cell.snapshot (p.cell.signal.extending now)
    now = outcome at judged
  cases judged with
  | unmoved =>
    rw [Pass.evaluate_unmoved decided]
    exact .inl same
  | waveOver =>
    cases verdict with
    | congestion => exact .inr ⟨_, Pass.evaluate_extension_records decided, rfl, rfl⟩
    | normal =>
      rw [Pass.evaluate_calm decided]
      exact .inl same
    | inconclusive =>
      rw [Pass.evaluate_calm decided]
      exact .inl same
  | detected => exact .inr ⟨_, Pass.evaluate_extension_records decided, rfl, rfl⟩
  | persisting => exact .inr ⟨_, Pass.evaluate_extension_records decided, rfl, rfl⟩
  | relieved =>
    rw [Pass.evaluate_calm decided, idle]
    exact .inl same

theorem hold_again (policy : Policy) (id : IntersectionId) (now : Instant) :
    c.hold policy id color now = ({ cell := c }, false) := by
  have ticked : Pass.tick policy id now { cell := c } = { cell := c } := by
    simp [Pass.tick, Signal.tick_held policy.cycle id held.1, Pass.note]
  simp only [hold, ticked, Pass.command, held.apply_again (c := ⟨id, color, .manual, none, now⟩) rfl rfl]
  rfl

theorem act_held (policy : Policy) {id : IntersectionId} (now : Instant) {a : CellAct} (about : a.About id)
    (spares : a.Spares color) :
    (c.act policy id now a).cell.signal = c.signal ∨
      ∃ t, .change t ∈ (c.act policy id now a).records ∧ t.Extends id := by
  have ticked (s : Snapshot) :
      (Pass.tick policy id now { cell := { c with snapshot := s } }).cell.signal = c.signal := by
    simp [Signal.tick_held policy.cycle id held.1]
  cases a with
  | ingest r =>
    obtain rfl := about
    simp only [act, ingest]
    split
    · exact evaluate_held held policy r.intersection now (ticked _)
    · exact .inl (ticked _)
  | sweep =>
    simp only [act, sweep]
    split
    · exact evaluate_held held policy id now (ticked _)
    · exact .inl (ticked _)
  | wave reason => exact spares.elim
  | hold other =>
    obtain rfl := spares
    rw [act, hold_again held]
    exact .inl rfl
  | stall seen => exact .inl (by simp [act, stall, Signal.lapse, held.1])

theorem undergo_held (policy : Policy) {id : IntersectionId} (now : Instant) {acts : List CellAct}
    (spared : ∀ a ∈ acts, a.About id ∧ a.Spares color) :
    (c.undergo policy id now acts).1.signal = c.signal ∨
      ∃ t, .change t ∈ (c.undergo policy id now acts).2 ∧ t.Extends id := by
  induction acts generalizing c with
  | nil => exact .inl rfl
  | cons a rest ih =>
    obtain ⟨⟨about, spares⟩, later⟩ := List.forall_mem_cons.mp spared
    rcases act_held held policy now about spares with same | ⟨t, told, extension⟩
    · rcases @ih (c.act policy id now a).cell (by rwa [same]) later with kept | ⟨t, told, extension⟩
      · exact .inl (kept.trans same)
      · exact .inr ⟨t, List.mem_append_right _ told, extension⟩
    · exact .inr ⟨t, List.mem_append_left _ told, extension⟩

end Cell

namespace Controller

variable {c : Controller} {id : IntersectionId}

theorem setCell_self (once : c.names.Nodup) {cell : Cell} (found : c.cell? id = some cell) :
    c.setCell id cell = c := by
  obtain ⟨front, back, cells, _⟩ := List.lookup_eq_some_iff.mp found
  rw [names, cells, List.map_append, List.map_cons, List.nodup_middle, ← List.map_append] at once
  have same : ∀ p ∈ c.cells, (if p.1 = id then (id, cell) else p) = p := by
    intro p member
    split
    next own =>
      have apart : p ∉ front ++ back := fun among =>
        (List.nodup_cons.mp once).1 (List.mem_map.mpr ⟨p, among, own⟩)
      rw [cells, List.mem_append, List.mem_cons] at member
      rcases member with early | rfl | late
      · exact absurd (List.mem_append_left back early) apart
      · rfl
      · exact absurd (List.mem_append_right front late) apart
    next => rfl
  rw [setCell, List.map_congr_left same, List.map_id']

end Controller

namespace ControlRoom

/-- A wave or a hold at the other color once it gets to the cell, and an extension of its green. -/
def Overrides (s : ControlRoom) (id : IntersectionId) (color : Color) (now : Instant) (op : Operation) :
    Prop :=
  (∃ a ∈ s.acts now id op, ¬ a.Spares color) ∨
    ∃ t, .change t ∈ (s.controller.goOver now (s.visits now op)).2 ∧ t.Extends id

theorem acts_spare {s : ControlRoom} {id : IntersectionId} {color : Color} {now : Instant} {op : Operation}
    {a : CellAct} (falls : a ∈ s.acts now id op) (uncovered : ¬ op.Covers s.controller.grid id)
    (unheld : ¬ op.Holds id) : a.Spares color := by
  have origin := acts_origin falls
  cases a with
  | wave reason => exact uncovered origin
  | hold other => exact absurd origin unheld
  | _ => trivial

def Undisputed (id : IntersectionId) (color : Color) : ControlRoom → List (Instant × Operation) → Prop
  | _, [] => True
  | s, (now, op) :: rest => ¬ s.Overrides id color now op ∧ Undisputed id color (s.perform now op) rest

section

variable {s : ControlRoom} {id : IntersectionId} {color : Color} {cell : Cell}
  (found : s.controller.cell? id = some cell) (held : cell.signal.HeldAt color)

include found held

theorem perform_held {now : Instant} {op : Operation} (undisputed : ¬ s.Overrides id color now op) :
    ∃ later, (s.perform now op).controller.cell? id = some later ∧ later.signal = cell.signal := by
  rw [perform_cell?, found]
  refine ⟨_, rfl, ?_⟩
  have spared : ∀ a ∈ s.acts now id op, a.About id ∧ a.Spares color := by
    intro a falls
    refine ⟨acts_about falls, ?_⟩
    by_contra overriding
    exact undisputed (.inl ⟨a, falls, overriding⟩)
  apply (Cell.undergo_held held _ now spared).resolve_right
  rintro ⟨t, told, extension⟩
  exact undisputed (.inr ⟨t, Controller.goOver_records now _ found told, extension⟩)

theorem run_held {steps : List (Instant × Operation)} (undisputed : s.Undisputed id color steps) :
    ∃ later, (s.run steps).controller.cell? id = some later ∧ later.signal = cell.signal := by
  induction steps generalizing s cell with
  | nil => exact ⟨cell, found, rfl⟩
  | cons step rest ih =>
    obtain ⟨first, undisputed⟩ := undisputed
    obtain ⟨next, there, same⟩ := perform_held found held first
    obtain ⟨later, there, kept⟩ := ih there (by rwa [same]) undisputed
    exact ⟨later, there, kept.trans same⟩

theorem hold_repeated (listed : id ∈ s.controller.grid.ids) (once : s.controller.names.Nodup)
    (now : Instant) (requestedBy : String) :
    s.hold now id color requestedBy = .ok (.ok ⟨id, color, false⟩, s) := by
  have ready (c : CellAct) (e : Effects) : Controller.halt? now [(id, c)] (s.controller, e) = none := by
    simp [Controller.halt?, found, Cell.canTick, held.canTick]
  have again : s.controller.hold now id color requestedBy =
      .ok (s.controller, {}, ⟨id, color, false⟩) := by
    simp only [Controller.hold, Controller.resolve_ok_iff.mpr ⟨rfl, listed⟩, Controller.need, found, bind,
      Except.bind, Cell.hold_again held]
    rw [Controller.setCell_self once found]
    rfl
  simp only [hold, again, guardTick, ready]
  rfl

end

theorem hold_ok {s s' : ControlRoom} {now : Instant} {name : String} {color : Color} {requestedBy : String}
    {outcome : HoldOutcome} (held : s.hold now name color requestedBy = .ok (.ok outcome, s')) :
    s' = s.perform now (.hold name color requestedBy) ∧ name ∈ s.controller.grid.ids ∧
      ∃ cell, s'.controller.cell? name = some cell ∧ cell.signal.HeldAt color := by
  have attempted : s.attempt now (.hold name color requestedBy) = some s' := by
    rw [attempt_some, undertake, held]
    rfl
  rcases s.controller.hold_cases now name color requestedBy with
    ⟨_, fault, turned⟩ | ⟨cell, e, listed, found, _, _⟩
  · simp only [hold, turned] at held
    cases held
  · have performed := perform_done attempted
    refine ⟨performed.symm, listed, ?_⟩
    have acts : s.acts now name (.hold name color requestedBy) = [.hold color] := by
      rw [ControlRoom.acts, visits_done (by rw [attempted]; rfl), Controller.visits_hold,
        if_pos ⟨listed, by rw [found]; rfl⟩]
      simp [actsOn]
    rw [← performed, perform_cell?, found, acts]
    simp only [Cell.undergo, Cell.act, Cell.hold_cell]
    exact ⟨_, rfl, Signal.apply_mode .., Signal.apply_color ..⟩

theorem run_names (s : ControlRoom) (steps : List (Instant × Operation)) :
    (s.run steps).controller.names = s.controller.names := by
  induction steps generalizing s with
  | nil => rfl
  | cons step rest ih =>
    refine (ih (s.perform step.1 step.2)).trans ?_
    rw [perform_controller]
    exact Controller.goOver_names _ _ _

/-- A hold stays until it is put aside, and asked for again it changes nothing in the whole room. -/
theorem hold_persists {settings : Settings} {replica primary : Store} {start : Instant}
    {room : ControlRoom} (ready : start? settings replica primary start = some room)
    (before : List (Instant × Operation)) {began : Instant} {name : String} {color : Color}
    {requestedBy : String} {outcome : HoldOutcome} {s : ControlRoom}
    (held : (room.run before).hold began name color requestedBy = .ok (.ok outcome, s)) :
    ∃ cell, s.controller.cell? name = some cell ∧ cell.signal.HeldAt color ∧
      ∀ steps, s.Undisputed name color steps →
        (∃ later, (s.run steps).controller.cell? name = some later ∧ later.signal = cell.signal) ∧
          ∀ now requester, (s.run steps).hold now name color requester =
            .ok (.ok ⟨name, color, false⟩, s.run steps) := by
  obtain ⟨performed, listed, cell, found, heldAt⟩ := hold_ok held
  refine ⟨cell, found, heldAt, fun steps undisputed => ?_⟩
  obtain ⟨later, there, kept⟩ := run_held found heldAt undisputed
  have whole : s.run steps = room.run (before ++ (began, .hold name color requestedBy) :: steps) := by
    rw [run_append, run_cons, performed]
  have listed' : name ∈ (s.run steps).controller.grid.ids := by
    rw [whole, (room.run_paired _).grid, ← (room.run_paired before).grid]
    exact listed
  have once : (s.run steps).controller.names.Nodup := by
    rw [whole, run_names, (start?_fresh ready).1, Controller.names_ofSettings]
    exact Grid.distinct_nodup [] _
  refine ⟨⟨later, there, kept⟩, fun now requester => ?_⟩
  exact hold_repeated there (by rwa [kept]) listed' once now requester

theorem hold_persists_out_of_wave :
    let settings : Settings := { rows := ["A"], columns := [1, 2] }
    let before : List (Instant × Operation) :=
      [(Instant.epoch.after 1, .wave (.row "A") "ambulance" "operator")]
    let steps : List (Instant × Operation) :=
      [(Instant.epoch.after 40, .sweep), (Instant.epoch.after 41, .hold "INT-A2" .green "operator")]
    ∃ room outcome s,
      start? settings (.log { name := "replica" }) (.log { name := "primary" }) .epoch = some room ∧
        (room.run before).hold (Instant.epoch.after 5) "INT-A1" .red "operator" = .ok (.ok outcome, s) ∧
        (s.controller.cell? "INT-A1").map (fun cell => cell.traffic.kind) = some .greenWave ∧
        ((s.run steps).controller.cell? "INT-A1").map (fun cell => cell.traffic.kind) = some .normal ∧
        ((s.run steps).controller.cell? "INT-A1").map (fun cell => cell.signal) =
          (s.controller.cell? "INT-A1").map (fun cell => cell.signal) ∧
        (s.run steps).hold (Instant.epoch.after 50) "INT-A1" .red "operator" =
          .ok (.ok ⟨"INT-A1", .red, false⟩, s.run steps) := by
  intro settings before steps
  have granted : ((((onLogs settings .epoch).run before).hold (Instant.epoch.after 5) "INT-A1" .red
      "operator").toOption.bind fun r => r.1.toOption).isSome = true := by decide +kernel
  obtain ⟨outcome, s, held⟩ : ∃ outcome s, ((onLogs settings .epoch).run before).hold
      (Instant.epoch.after 5) "INT-A1" .red "operator" = .ok (.ok outcome, s) := by
    generalize ((onLogs settings .epoch).run before).hold _ _ _ _ = done at granted
    rcases done with _ | ⟨_ | outcome, s⟩
    · cases granted
    · cases granted
    · exact ⟨outcome, s, rfl⟩
  obtain ⟨cell, found, _, persists⟩ := @hold_persists settings (.log { name := "replica" })
    (.log { name := "primary" }) .epoch _ (start?_onLogs (by decide) _) before _ _ _ _ _ _ held
  have reached := (hold_ok held).1
  have swept : ∀ t ∈ (s.controller.goOver (Instant.epoch.after 40)
      (s.visits (Instant.epoch.after 40) .sweep)).2.filterMap Record.change?, ¬ t.Extends "INT-A1" := by
    rw [reached]
    decide +kernel
  have other : ∀ t ∈ ((s.perform (Instant.epoch.after 40) .sweep).controller.goOver (Instant.epoch.after 41)
      ((s.perform (Instant.epoch.after 40) .sweep).visits (Instant.epoch.after 41)
        (.hold "INT-A2" .green "operator"))).2.filterMap Record.change?, ¬ t.Extends "INT-A1" := by
    rw [reached]
    decide +kernel
  have undisputed : s.Undisputed "INT-A1" .red steps := by
    refine ⟨?_, ?_, trivial⟩
    · rintro (⟨a, falls, overriding⟩ | ⟨t, told, extension⟩)
      · exact overriding (acts_spare falls id id)
      · exact swept t (List.mem_filterMap.mpr ⟨_, told, rfl⟩) extension
    · rintro (⟨a, falls, overriding⟩ | ⟨t, told, extension⟩)
      · exact overriding (acts_spare falls id fun own : "INT-A2" = "INT-A1" => absurd own (by decide))
      · exact other t (List.mem_filterMap.mpr ⟨_, told, rfl⟩) extension
  obtain ⟨⟨later, there, kept⟩, again⟩ := persists steps undisputed
  refine ⟨_, outcome, s, start?_onLogs (by decide) _, held, ?_, ?_, ?_, again _ _⟩
  · rw [reached]
    decide +kernel
  · rw [reached]
    decide +kernel
  · rw [there, found, Option.map_some, Option.map_some, kept]

end ControlRoom

end Signalgrid
