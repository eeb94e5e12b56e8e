import Signalgrid.Proofs.Control.History

set_option autoImplicit false

namespace Signalgrid

open Record

/-- An operation under way: it takes up its cells one after the other, and then records what they have
left. -/
structure Errand where
  now : Instant
  plan : Plan
  ahead : List (IntersectionId × CellAct)
  -- What has been gathered so far, and then what is still to be recorded.
  records : List Record := []
  stopped : Bool := false

namespace Errand

def settle (e : Errand) : Errand :=
  if e.ahead.isEmpty then { e with records := e.plan.written e.records } else e

def start (now : Instant) (p : Plan) : Errand := settle { now := now, plan := p, ahead := p.visits }

def finished (e : Errand) : Bool := e.ahead.isEmpty && e.records.isEmpty

@[simp] theorem settle_ahead (e : Errand) : e.settle.ahead = e.ahead := by
  unfold settle
  split <;> rfl

@[simp] theorem changesOf_settle (id : IntersectionId) (e : Errand) :
    changesOf id e.settle.records = changesOf id e.records := by
  unfold settle
  split <;> simp

end Errand

structure Rush where
  room : ControlRoom
  errands : List Errand
  -- What the cells have left, in the order in which they were put back.
  made : List Record := []
  -- What the replica has taken in, in the order in which it came there, and what it has refused.
  stored : List Record := []
  refused : List Record := []

namespace Rush

def launch (room : ControlRoom) (operations : List (Instant × Operation)) : Rush :=
  { room := room
    errands := operations.map fun (now, op) =>
      .start now ((room.controller.plan now op).getD { visits := [] }) }

def visit (r : Rush) (i : Nat) (e : Errand) (v : IntersectionId × CellAct)
    (rest : List (IntersectionId × CellAct)) : Rush :=
  let (c, records) := r.room.controller.visit e.now v
  { r with
    room := { r.room with controller := c }
    errands := r.errands.set i (Errand.settle { e with ahead := rest, records := e.records ++ records })
    made := r.made ++ records }

def stop (r : Rush) (i : Nat) (e : Errand) (v : IntersectionId × CellAct) : Rush :=
  { r with
    room := { r.room with controller := (r.room.controller.visit e.now (v.1, v.2.stalled)).1 }
    errands := r.errands.set i { e with stopped := true } }

def record (r : Rush) (i : Nat) (e : Errand) (x : Record) (rest : List Record) : Rush :=
  let (outcome, archive) := r.room.archive.record x
  { r with
    room := { r.room with archive := archive }
    errands := r.errands.set i { e with records := rest }
    stored := if outcome.replica.isOk then r.stored ++ [x] else r.stored
    refused := if outcome.replica.isOk then r.refused else r.refused ++ [x] }

def advance (r : Rush) (i : Nat) : Rush :=
  match r.errands[i]? with
  | none => r
  | some e =>
      if e.stopped then r
      else match e.ahead, e.records with
        | v :: rest, _ => if r.room.controller.canTick e.now [v.1] then r.visit i e v rest else r.stop i e v
        | [], x :: rest => r.record i e x rest
        | [], [] => r

def run (r : Rush) (schedule : List Nat) : Rush := schedule.foldl advance r

theorem run_append (r : Rush) (first second : List Nat) :
    r.run (first ++ second) = (r.run first).run second := List.foldl_append

def finished (r : Rush) : Bool := r.errands.all Errand.finished

inductive Advanced (r : Rush) (i : Nat) : Rush → Prop where
  | idle : Advanced r i r
  | visit {e : Errand} {v : IntersectionId × CellAct} {rest : List (IntersectionId × CellAct)}
      (found : r.errands[i]? = some e) (ahead : e.ahead = v :: rest) : Advanced r i (r.visit i e v rest)
  | stop {e : Errand} (found : r.errands[i]? = some e) (v : IntersectionId × CellAct) :
      Advanced r i (r.stop i e v)
  | record {e : Errand} {x : Record} {rest : List Record} (found : r.errands[i]? = some e)
      (waiting : e.records = x :: rest) : Advanced r i (r.record i e x rest)

theorem advance_advanced (r : Rush) (i : Nat) : r.Advanced i (r.advance i) := by
  unfold advance
  split
  next => exact .idle
  next e found =>
    split
    · exact .idle
    · split
      next ahead =>
        split
        · exact .visit found ahead
        · exact .stop found _
      next ahead waiting => exact .record found waiting
      next => exact .idle

section

variable {r : Rush} {e : Errand}

theorem run_visits (visits : List (IntersectionId × CellAct))
    (only : r.errands = [Errand.settle { e with ahead := visits }]) (going : e.stopped = false)
    (inside : e.now.isFinalLeap = false) :
    r.run (List.replicate visits.length 0) =
      { r with
        room := { r.room with controller := (r.room.controller.goOver e.now visits).1 }
        errands := [Errand.settle
          { e with ahead := [], records := e.records ++ (r.room.controller.goOver e.now visits).2 }]
        made := r.made ++ (r.room.controller.goOver e.now visits).2 } := by
  induction visits generalizing r e with
  | nil => simp [run, Controller.goOver, ← only]
  | cons v rest ih =>
    have able : r.room.controller.canTick e.now [v.1] = true := r.room.controller.canTick_inside inside _
    have stepped : r.advance 0 = r.visit 0 { e with ahead := v :: rest } v rest := by
      simp [advance, only, Errand.settle, able, going]
    have later := @ih (r.advance 0)
      { e with ahead := rest, records := e.records ++ (r.room.controller.visit e.now v).2 }
      (by simp [stepped, visit, only]) going inside
    rw [List.length_cons, List.replicate_succ]
    refine later.trans ?_
    simp [stepped, visit, Controller.goOver]

theorem run_records (records : List Record) (only : r.errands = [{ e with ahead := [], records := records }])
    (going : e.stopped = false) :
    let r' := r.run (List.replicate records.length 0)
    r'.finished = true ∧ r'.room.controller = r.room.controller ∧
      r'.room.archive = r.room.archive.recordAll records := by
  induction records generalizing r with
  | nil => simp [run, finished, only, Errand.finished, Archive.recordAll]
  | cons x rest ih =>
    have stepped : r.advance 0 = r.record 0 { e with ahead := [], records := x :: rest } x rest := by
      simp [advance, only, going]
    obtain ⟨done, cells, archive⟩ := @ih (r.advance 0) (by simp [stepped, record, only])
    refine ⟨done, cells.trans ?_, archive.trans ?_⟩
    · rw [stepped]
      rfl
    · rw [stepped]
      rfl

end

theorem launch_alone (room : ControlRoom) {now : Instant} (inside : now.isFinalLeap = false)
    (op : Operation) :
    ∃ n, let r := (launch room [(now, op)]).run (List.replicate n 0)
      r.finished = true ∧ r.room.controller = (room.controller.operate now op).1 ∧
        r.room.archive = room.archive.recordAll (room.controller.operate now op).2.records := by
  have follows := room.controller.operate_follows now op
  cases planned : room.controller.plan now op with
  | none =>
    rw [planned] at follows
    rw [follows]
    refine ⟨0, ?_⟩
    simp [launch, planned, run, finished, Errand.start, Errand.settle, Errand.finished, Plan.written,
      Archive.recordAll]
  | some p =>
    rw [planned] at follows
    obtain ⟨cells, records⟩ := follows
    have visited := @run_visits (launch room [(now, op)]) { now := now, plan := p, ahead := [] } p.visits
      (by simp [launch, planned, Errand.start]) rfl inside
    obtain ⟨done, controller, archive⟩ :=
      @run_records ((launch room [(now, op)]).run (List.replicate p.visits.length 0))
        { now := now, plan := p, ahead := [] } (p.written (room.controller.goOver now p.visits).2)
        (by rw [visited]; simp [launch, Errand.settle]) rfl
    refine ⟨p.visits.length + (p.written (room.controller.goOver now p.visits).2).length, ?_⟩
    rw [List.replicate_add, run_append, cells, records]
    refine ⟨done, controller.trans ?_, archive.trans ?_⟩
    · rw [visited]
      rfl
    · rw [visited]
      rfl

end Rush

theorem flatMap_set {α β : Type} (f : α → List β) {xs : List α} {i : Nat} {x : α}
    (found : xs[i]? = some x) :
    ∃ others, (xs.flatMap f).Perm (f x ++ others) ∧
      ∀ y, ((xs.set i y).flatMap f).Perm (f y ++ others) := by
  induction xs generalizing i with
  | nil => simp at found
  | cons first rest ih =>
    cases i with
    | zero =>
      simp only [List.getElem?_cons_zero, Option.some.injEq] at found
      subst found
      exact ⟨rest.flatMap f, .refl _, fun y => .refl _⟩
    | succ i =>
      obtain ⟨others, before, after⟩ := ih (by simpa using found)
      refine ⟨f first ++ others, ?_, fun y => ?_⟩
      · rw [List.flatMap_cons]
        exact (before.append_left _).trans (List.perm_append_comm_assoc ..)
      · rw [List.set_cons_succ, List.flatMap_cons]
        exact ((after y).append_left _).trans (List.perm_append_comm_assoc ..)

namespace Rush

def pending (r : Rush) (id : IntersectionId) : List Transition :=
  r.errands.flatMap fun e => changesOf id e.records

structure Accounted (r : Rush) : Prop where
  about : ∀ e ∈ r.errands, ∀ v ∈ e.ahead, v.2.About v.1
  light : ∀ id cell, r.room.controller.cell? id = some cell →
    Linked Transition.before Transition.after .red (changesOf id r.made) cell.signal.color
  holds : r.room.archive.replica.Holds r.stored
  ready : r.stored ≠ [] → r.room.archive.replica.Ready
  account : ∀ id, (changesOf id r.stored ++ changesOf id r.refused ++ r.pending id).Perm
    (changesOf id r.made)

section

variable {r : Rush} {i : Nat} {e : Errand} (accounted : r.Accounted)
  (found : r.errands[i]? = some e)

include accounted found

theorem visit_accounted {v : IntersectionId × CellAct} {rest : List (IntersectionId × CellAct)}
    (ahead : e.ahead = v :: rest) : (r.visit i e v rest).Accounted := by
  have about := accounted.about e (List.mem_of_getElem? found)
  rw [ahead, List.forall_mem_cons] at about
  have told := @Controller.visit_tells e.now v about.1 r.room.controller
  constructor
  case about =>
    intro e' member
    rcases List.mem_or_eq_of_mem_set member with kept | rfl
    · exact accounted.about e' kept
    · simpa using about.2
  case light =>
    intro id cell held
    obtain ⟨before, held, tells⟩ := told id cell held
    have light := tells.light
    rw [changesOf_of] at light
    simp only [visit, changesOf_append]
    exact (accounted.light id before held).append light
  case holds => exact accounted.holds
  case ready => exact accounted.ready
  case account =>
    intro id
    obtain ⟨others, before, after⟩ := flatMap_set (fun e => changesOf id e.records) found
    have account := accounted.account id
    have grown := after (Errand.settle
      { e with ahead := rest, records := e.records ++ (r.room.controller.visit e.now v).2 })
    rw [List.perm_iff_count] at *
    intro t
    have account := account t
    have before := before t
    have grown := grown t
    simp only [visit, pending, changesOf_append, List.count_append, Errand.changesOf_settle] at *
    omega

theorem stop_accounted (v : IntersectionId × CellAct) : (r.stop i e v).Accounted := by
  have told := @Controller.visit_tells e.now (v.1, v.2.stalled) CellAct.About.stalled r.room.controller
  rw [Controller.visit_stalled] at told
  constructor
  case about =>
    intro e' member
    rcases List.mem_or_eq_of_mem_set member with kept | rfl
    · exact accounted.about e' kept
    · exact accounted.about e (List.mem_of_getElem? found)
  case light =>
    intro id cell held
    obtain ⟨before, held, tells⟩ := told id cell held
    have light := accounted.light id before held
    rwa [show before.signal.color = cell.signal.color from tells.light] at light
  case holds => exact accounted.holds
  case ready => exact accounted.ready
  case account =>
    intro id
    obtain ⟨others, before, after⟩ := flatMap_set (fun e => changesOf id e.records) found
    have kept : ((r.stop i e v).pending id).Perm (r.pending id) := (after { e with stopped := true }).trans before.symm
    exact (kept.append_left _).trans (accounted.account id)

theorem record_accounted {x : Record} {rest : List Record} (waiting : e.records = x :: rest) :
    (r.record i e x rest).Accounted := by
  obtain ⟨outcome, replica, _⟩ := r.room.archive.record_eq x
  constructor
  case about =>
    intro e' member
    rcases List.mem_or_eq_of_mem_set member with kept | rfl
    · exact accounted.about e' kept
    · exact accounted.about e (List.mem_of_getElem? found)
  case light => exact accounted.light
  case holds =>
    simp only [record, outcome, replica]
    split
    next accepted => exact accounted.holds.insert accepted
    next refused => exact accounted.holds.insert_refused (by simpa using refused)
  case ready =>
    simp only [record, outcome, replica]
    split
    next accepted => exact fun _ => ((accounted.holds.insert_ready accepted).insert x).2
    next => exact fun filled => ((accounted.ready filled).insert x).2
  case account =>
    intro id
    obtain ⟨others, before, after⟩ := flatMap_set (fun e => changesOf id e.records) found
    have account := accounted.account id
    have shrunk := after { e with records := rest }
    have front : changesOf id e.records = changesOf id [x] ++ changesOf id rest := by
      rw [waiting, ← changesOf_append, List.singleton_append]
    rw [List.perm_iff_count] at *
    intro t
    have account := account t
    have before := before t
    have shrunk := shrunk t
    simp only [record, pending, outcome, front, List.count_append] at *
    split <;> simp only [changesOf_append, List.count_append] <;> omega

end

theorem advance_accounted {r : Rush} (accounted : r.Accounted) (i : Nat) : (r.advance i).Accounted := by
  have advanced := r.advance_advanced i
  generalize r.advance i = r' at advanced
  cases advanced with
  | idle => exact accounted
  | visit found ahead => exact visit_accounted accounted found ahead
  | stop found v => exact stop_accounted accounted found v
  | record found waiting => exact record_accounted accounted found waiting

theorem run_accounted {r : Rush} (accounted : r.Accounted) (schedule : List Nat) :
    (r.run schedule).Accounted := by
  induction schedule generalizing r with
  | nil => exact accounted
  | cons i rest ih => exact ih (advance_accounted accounted i)

def owed (r : Rush) (id : IntersectionId) (i : Nat) : List Transition :=
  (r.errands[i]?.map fun e => changesOf id e.records).getD []

/-- No operation changes the light of the intersection while another has a change of it to record. -/
def Apart (id : IntersectionId) : Rush → List Nat → Prop
  | _, [] => True
  | r, i :: rest =>
      (changesOf id (r.advance i).made ≠ changesOf id r.made → ∀ j, j ≠ i → r.owed id j = []) ∧
        Apart id (r.advance i) rest

theorem owed_beyond {r : Rush} (id : IntersectionId) {j : Nat} (beyond : r.errands.length ≤ j) :
    r.owed id j = [] := by
  simp [owed, List.getElem?_eq_none beyond]

instance (r : Rush) (id : IntersectionId) (i : Nat) : Decidable (∀ j, j ≠ i → r.owed id j = []) :=
  decidable_of_iff (∀ j < r.errands.length, j ≠ i → r.owed id j = [])
    ⟨fun within j away => (Nat.lt_or_ge j r.errands.length).elim (within j · away) (owed_beyond id),
      fun all j _ => all j⟩

instance decidableApart (id : IntersectionId) :
    (r : Rush) → (schedule : List Nat) → Decidable (r.Apart id schedule)
  | _, [] => .isTrue trivial
  | r, i :: rest => @instDecidableAnd _ _ inferInstance (decidableApart id (r.advance i) rest)

def InOrder (r : Rush) (id : IntersectionId) : Prop :=
  ∃ i, (∀ j, j ≠ i → r.owed id j = []) ∧ changesOf id r.made = changesOf id r.stored ++ r.owed id i

section

variable {r : Rush} {i : Nat} {e : Errand} (found : r.errands[i]? = some e) (id : IntersectionId)

include found

theorem owed_set (e' : Errand) (j : Nat) :
    ((r.errands.set i e')[j]?.map fun e => changesOf id e.records).getD [] =
      if j = i then changesOf id e'.records else r.owed id j := by
  have within : i < r.errands.length := (List.getElem?_eq_some_iff.mp found).1
  rw [owed, List.getElem?_set]
  by_cases same : i = j
  · simp [← same, within]
  · have apart : ¬ j = i := fun h => same h.symm
    simp [same, apart]

theorem owed_visit (v : IntersectionId × CellAct) (rest : List (IntersectionId × CellAct)) (j : Nat) :
    (r.visit i e v rest).owed id j =
      if j = i then r.owed id i ++ changesOf id (r.room.controller.visit e.now v).2
      else r.owed id j := by
  have own : r.owed id i = changesOf id e.records := by simp [owed, found]
  rw [own, ← changesOf_append]
  simp only [visit]
  exact (owed_set found id _ j).trans (by rw [Errand.changesOf_settle])

theorem owed_stop (v : IntersectionId × CellAct) (j : Nat) : (r.stop i e v).owed id j = r.owed id j := by
  refine (owed_set found id { e with stopped := true } j).trans ?_
  split
  next same => simp [owed, same, found]
  next => rfl

theorem owed_record (x : Record) (rest : List Record) (j : Nat) :
    (r.record i e x rest).owed id j = if j = i then changesOf id rest else r.owed id j :=
  owed_set found id _ j

end

theorem visit_inOrder {r : Rush} {i : Nat} {e : Errand} {id : IntersectionId}
    (found : r.errands[i]? = some e) {v : IntersectionId × CellAct}
    {rest : List (IntersectionId × CellAct)} (inOrder : r.InOrder id)
    (apart : changesOf id (r.visit i e v rest).made ≠ changesOf id r.made →
      ∀ j, j ≠ i → r.owed id j = []) : (r.visit i e v rest).InOrder id := by
  obtain ⟨owner, others, order⟩ := inOrder
  have made : changesOf id (r.visit i e v rest).made =
      changesOf id r.made ++ changesOf id (r.room.controller.visit e.now v).2 := changesOf_append ..
  have stored : (r.visit i e v rest).stored = r.stored := rfl
  have owed := owed_visit found id v rest
  rw [made] at apart
  by_cases quiet : changesOf id (r.room.controller.visit e.now v).2 = []
  · refine ⟨owner, fun j away => ?_, ?_⟩
    · rw [owed, quiet, List.append_nil]
      split
      next same => exact same ▸ others j away
      next => exact others j away
    · rw [made, quiet, List.append_nil, stored, owed, quiet, List.append_nil, order]
      split
      next same => rw [same]
      next => rfl
  · have apart := apart (by simpa using quiet)
    refine ⟨i, fun j away => ?_, ?_⟩
    · rw [owed, if_neg away]
      exact apart j away
    -- Whoever had changes to record before, it was this operation.
    · have same : r.owed id owner = r.owed id i := by
        by_cases own : owner = i
        · rw [own]
        · rw [apart owner own, others i fun h => own h.symm]
      rw [made, stored, owed, if_pos rfl, order, same, List.append_assoc]

theorem stop_inOrder {r : Rush} {i : Nat} {e : Errand} {id : IntersectionId}
    (found : r.errands[i]? = some e) (v : IntersectionId × CellAct) (inOrder : r.InOrder id) :
    (r.stop i e v).InOrder id := by
  obtain ⟨owner, others, order⟩ := inOrder
  refine ⟨owner, fun j away => ?_, ?_⟩
  · rw [owed_stop found]
    exact others j away
  · rw [owed_stop found]
    exact order

theorem record_inOrder {r : Rush} {i : Nat} {e : Errand} {id : IntersectionId}
    (found : r.errands[i]? = some e) {x : Record} {rest : List Record}
    (waiting : e.records = x :: rest) (accepted : (r.record i e x rest).refused = [])
    (inOrder : r.InOrder id) : (r.record i e x rest).InOrder id := by
  obtain ⟨owner, others, order⟩ := inOrder
  have stored : (r.record i e x rest).stored = r.stored ++ [x] := by
    simp only [record] at accepted ⊢
    split
    next => rfl
    next refused => simp [refused] at accepted
  have made : (r.record i e x rest).made = r.made := rfl
  have owed := owed_record found id x rest
  have own : r.owed id i = changesOf id [x] ++ changesOf id rest := by
    rw [← changesOf_append, List.singleton_append, ← waiting]
    simp [Rush.owed, found]
  by_cases mine : owner = i
  · subst mine
    refine ⟨owner, fun j away => ?_, ?_⟩
    · rw [owed, if_neg away]
      exact others j away
    · rw [made, stored, owed, if_pos rfl, order, own, changesOf_append, List.append_assoc]
  · have nothing := others i fun h => mine h.symm
    rw [own, List.append_eq_nil_iff] at nothing
    refine ⟨owner, fun j away => ?_, ?_⟩
    · rw [owed]
      split
      next => exact nothing.2
      next => exact others j away
    · rw [made, stored, owed, if_neg mine, order, changesOf_append, nothing.1, List.append_nil]

theorem advance_refused {r : Rush} {i : Nat} (accepted : (r.advance i).refused = []) :
    r.refused = [] := by
  have advanced := r.advance_advanced i
  generalize r.advance i = r' at advanced accepted
  cases advanced with
  | idle => exact accepted
  | visit found ahead => exact accepted
  | stop found v => exact accepted
  | record found waiting =>
    simp only [record] at accepted
    split at accepted
    · exact accepted
    · simp at accepted

theorem run_refused {r : Rush} {schedule : List Nat} (accepted : (r.run schedule).refused = []) :
    r.refused = [] := by
  induction schedule generalizing r with
  | nil => exact accepted
  | cons i rest ih => exact advance_refused (ih accepted)

theorem advance_inOrder {r : Rush} {i : Nat} {id : IntersectionId} (inOrder : r.InOrder id)
    (apart : changesOf id (r.advance i).made ≠ changesOf id r.made → ∀ j, j ≠ i → r.owed id j = [])
    (accepted : (r.advance i).refused = []) : (r.advance i).InOrder id := by
  have advanced := r.advance_advanced i
  generalize r.advance i = r' at advanced apart accepted
  cases advanced with
  | idle => exact inOrder
  | visit found ahead => exact visit_inOrder found inOrder apart
  | stop found v => exact stop_inOrder found v inOrder
  | record found waiting => exact record_inOrder found waiting accepted inOrder

theorem run_inOrder {r : Rush} {id : IntersectionId} {schedule : List Nat} (inOrder : r.InOrder id)
    (apart : r.Apart id schedule) (accepted : (r.run schedule).refused = []) :
    (r.run schedule).InOrder id := by
  induction schedule generalizing r with
  | nil => exact inOrder
  | cons i rest ih =>
    -- Refusals only grow, so if there is none at the end there is none yet.
    have so_far : (r.advance i).refused = [] := @run_refused (r.advance i) rest accepted
    exact ih (advance_inOrder inOrder apart.1 so_far) apart.2 accepted

section

variable {r : Rush} (finished : r.finished = true) (id : IntersectionId)

include finished

theorem finished_pending : r.pending id = [] := by
  rw [pending, List.flatMap_eq_nil_iff]
  intro e member
  have done := List.all_eq_true.mp finished e member
  simp only [Errand.finished, Bool.and_eq_true, List.isEmpty_iff] at done
  rw [done.2]
  rfl

theorem finished_owed (i : Nat) : r.owed id i = [] := by
  unfold owed
  cases found : r.errands[i]? with
  | none => rfl
  | some e =>
    have none := List.flatMap_eq_nil_iff.mp (finished_pending finished id) e (List.mem_of_getElem? found)
    simpa using none

end

section

variable {room : ControlRoom} (operations : List (Instant × Operation))

theorem launch_about : ∀ e ∈ (launch room operations).errands, ∀ v ∈ e.ahead, v.2.About v.1 := by
  intro e member
  obtain ⟨⟨now, op⟩, _, rfl⟩ := List.mem_map.mp member
  simp only [Errand.start, Errand.settle_ahead]
  cases planned : room.controller.plan now op with
  | none => simp
  | some p => exact Controller.plan_about planned

theorem launch_changes (id : IntersectionId) :
    ∀ e ∈ (launch room operations).errands, changesOf id e.records = [] := by
  intro e member
  obtain ⟨⟨now, op⟩, _, rfl⟩ := List.mem_map.mp member
  simp [Errand.start]

theorem launch_inOrder (id : IntersectionId) : (launch room operations).InOrder id := by
  have owed : ∀ i, (launch room operations).owed id i = [] := by
    intro i
    unfold Rush.owed
    cases found : (launch room operations).errands[i]? with
    | none => rfl
    | some e => simpa using launch_changes operations id e (List.mem_of_getElem? found)
  refine ⟨0, fun j _ => owed j, ?_⟩
  rw [owed]
  rfl

theorem launch_accounted {settings : Settings} {replica primary : Store} {start : Instant}
    (ready : ControlRoom.start? settings replica primary start = some room) (fresh : replica.Holds []) :
    (launch room operations).Accounted := by
  obtain ⟨cells, kept⟩ := ControlRoom.start?_fresh ready
  constructor
  case about => exact launch_about operations
  case light =>
    intro id cell found
    simp only [launch, cells, Controller.cell?_ofSettings] at found
    split at found
    · cases found
      rfl
    · cases found
  case holds =>
    simp only [launch, kept]
    exact fresh
  case ready => exact fun filled => absurd rfl filled
  case account =>
    intro id
    have none : (launch room operations).pending id = [] :=
      List.flatMap_eq_nil_iff.mpr (launch_changes operations id)
    rw [none]
    exact .refl _

end

theorem advance_present (r : Rush) (i : Nat) (id : IntersectionId) :
    ((r.advance i).room.controller.cell? id).isSome = (r.room.controller.cell? id).isSome := by
  have advanced := r.advance_advanced i
  generalize r.advance i = r' at advanced
  cases advanced with
  | idle => rfl
  | visit found ahead => exact (Controller.visit_paired _ _).present id
  | stop found v => exact (Controller.visit_paired _ _).present id
  | record found waiting => rfl

theorem run_present (r : Rush) (schedule : List Nat) (id : IntersectionId) :
    ((r.run schedule).room.controller.cell? id).isSome = (r.room.controller.cell? id).isSome := by
  induction schedule generalizing r with
  | nil => rfl
  | cons i rest ih => exact (ih (r.advance i)).trans (r.advance_present i id)

/-- Once all are done, the replica holds the changes that were made, each once, in the order of the
inserts. -/
theorem interleaved_changes {settings : Settings} {replica primary : Store} {start : Instant}
    {room : ControlRoom} (ready : ControlRoom.start? settings replica primary start = some room)
    (fresh : replica.Holds []) (operations : List (Instant × Operation)) (schedule : List Nat)
    (finished : ((launch room operations).run schedule).finished = true)
    (accepted : ((launch room operations).run schedule).refused = []) :
    let r := (launch room operations).run schedule
    let store := r.room.archive.replica
    store.Holds r.stored ∧
      ∀ id ∈ settings.intersections,
        ∃ cell, r.room.controller.cell? id = some cell ∧
          (changesOf id r.stored).Perm (changesOf id r.made) ∧
          Linked Transition.before Transition.after .red (changesOf id r.made) cell.signal.color ∧
          store.latest? id = (changesOf id r.stored).getLast? ∧
          ((changesOf id r.stored).getLast? = (changesOf id r.made).getLast? →
            ∀ t, store.latest? id = some t → t.after = cell.signal.color) ∧
          ((launch room operations).Apart id schedule →
            changesOf id r.stored = changesOf id r.made) := by
  intro r store
  have accounted : r.Accounted := run_accounted (launch_accounted operations ready fresh) schedule
  refine ⟨accounted.holds, fun id listed => ?_⟩
  have present := (launch room operations).run_present schedule id
  have begins : (launch room operations).room = room := rfl
  rw [begins, (ControlRoom.start?_fresh ready).1, Controller.cell?_ofSettings, if_pos listed] at present
  obtain ⟨cell, found⟩ := Option.isSome_iff_exists.mp present
  have light := accounted.light id cell found
  have latest := accounted.holds.latest accounted.ready id
  refine ⟨cell, found, ?_, light, latest, fun newest t answered => ?_, fun apart => ?_⟩
  · have account := accounted.account id
    rw [accepted, finished_pending finished id] at account
    simpa using account
  · rw [latest, newest] at answered
    rw [light.getLast?, answered]
    rfl
  · obtain ⟨owner, _, order⟩ := run_inOrder (launch_inOrder operations id) apart accepted
    rw [finished_owed finished id, List.append_nil] at order
    exact order.symm

theorem interleaved_changes_apart :
    let settings : Settings := { rows := ["A"], columns := [1, 2] }
    let operations : List (Instant × Operation) :=
      [(.epoch, .hold "INT-A1" .green "operator"), (.epoch, .hold "INT-A2" .green "operator"),
        (.epoch, .hold "INT-A1" .red "operator")]
    let schedule := [0, 1, 0, 0, 0, 2, 1, 2, 1, 2, 1, 2]
    ∃ room cell told,
      ControlRoom.start? settings (.log { name := "replica" }) (.log { name := "primary" }) .epoch =
          some room ∧
        ((launch room operations).run schedule).room.controller.cell? "INT-A1" = some cell ∧
        ((launch room operations).run schedule).room.archive.replica.latest? "INT-A1" = some told ∧
        told.before = .green ∧ told.after = .red ∧ cell.signal.color = .red ∧
        (launch room operations).Apart "INT-A1" schedule ∧
        changesOf "INT-A1" ((launch room operations).run schedule).stored =
          changesOf "INT-A1" ((launch room operations).run schedule).made := by
  intro settings operations schedule
  obtain ⟨holds, told⟩ := @interleaved_changes settings (.log { name := "replica" })
    (.log { name := "primary" }) .epoch _ (ControlRoom.start?_onLogs (by decide) _) (.log _) operations
    schedule (by decide +kernel) (by decide +kernel)
  have configured : "INT-A1" ∈ settings.intersections := by decide +kernel
  obtain ⟨cell, found, _, _, _, newest, ordered⟩ := told "INT-A1" configured
  have apart : (launch (.onLogs settings .epoch) operations).Apart "INT-A1" schedule := by decide +kernel
  have answered :
      ((launch (.onLogs settings .epoch) operations).run schedule).room.archive.replica.latest? "INT-A1" =
        some ⟨"INT-A1", .green, .red, "manual", none, .epoch⟩ := by decide +kernel
  have light := newest (congrArg List.getLast? (ordered apart)) _ answered
  exact ⟨_, cell, _, ControlRoom.start?_onLogs (by decide) _, found, answered, rfl, rfl, light.symm, apart,
    ordered apart⟩

theorem latest_change_outrun :
    let settings : Settings := { rows := ["A"], columns := [1] }
    let operations : List (Instant × Operation) :=
      [(.epoch, .hold "INT-A1" .red "operator"), (.epoch, .hold "INT-A1" .green "operator")]
    let schedule := [0, 1, 1, 1, 1, 0, 0, 0]
    ∃ room,
      ControlRoom.start? settings (.log { name := "replica" }) (.log { name := "primary" }) .epoch =
          some room ∧
        let r := (launch room operations).run schedule
        r.finished = true ∧ r.refused = [] ∧
          (r.room.archive.replica.latest? "INT-A1").map Transition.after = some .red ∧
          (r.room.controller.cell? "INT-A1").map (·.signal.color) = some .green := by
  intro settings operations schedule
  refine ⟨.onLogs settings .epoch, ControlRoom.start?_onLogs (by decide) _, ?_⟩
  exact ⟨by decide +kernel, by decide +kernel, by decide +kernel, by decide +kernel⟩

end Rush

end Signalgrid
