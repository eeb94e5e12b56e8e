import Signalgrid.Proofs.Control.Visits

set_option autoImplicit false

namespace Signalgrid

namespace Controller

/-- To the end, or to the first cell whose signal cannot be brought up to date. -/
def reached (now : Instant) : Controller → List (IntersectionId × CellAct) → List (IntersectionId × CellAct)
  | _, [] => []
  | c, v :: rest =>
      if c.canTick now [v.1] then v :: reached now (c.visit now v).1 rest else [(v.1, v.2.stalled)]

section

variable {c d : Controller} {now : Instant} {visits : List (IntersectionId × CellAct)} {e : Effects}

theorem canTick_inside (c : Controller) (inside : now.isFinalLeap = false) (ids : List IntersectionId) :
    c.canTick now ids = true := by
  unfold canTick
  rw [List.all_eq_true]
  intro id member
  cases c.cell? id with
  | none => rfl
  | some cell => exact Signal.canTick_inside _ cell.signal inside

theorem Paired.canTick (paired : c.Paired d) (now : Instant) {ids : List IntersectionId}
    (agree : ∀ id ∈ ids, c.cell? id = d.cell? id) : c.canTick now ids = d.canTick now ids := by
  unfold Controller.canTick
  rw [paired.policy, Bool.eq_iff_iff, List.all_eq_true, List.all_eq_true]
  refine forall₂_congr fun id member => ?_
  rw [agree id member]

theorem reached_inside (inside : now.isFinalLeap = false) (visits : List (IntersectionId × CellAct)) :
    c.reached now visits = visits := by
  induction visits generalizing c with
  | nil => rfl
  | cons v rest ih => rw [reached, c.canTick_inside inside, if_pos rfl, ih]

theorem mem_reached {v : IntersectionId × CellAct} (member : v ∈ c.reached now visits) :
    ∃ w ∈ visits, v.1 = w.1 ∧ (v.2 = w.2 ∨ v.2 = w.2.stalled) := by
  induction visits generalizing c with
  | nil => simp [reached] at member
  | cons first rest ih =>
    rw [reached] at member
    split at member
    · rcases List.mem_cons.mp member with rfl | later
      · exact ⟨v, List.mem_cons_self, rfl, .inl rfl⟩
      · obtain ⟨w, among, same⟩ := ih later
        exact ⟨w, List.mem_cons_of_mem _ among, same⟩
    · rw [List.mem_singleton.mp member]
      exact ⟨first, List.mem_cons_self, rfl, .inr rfl⟩

theorem reached_single (c : Controller) (now : Instant) (v : IntersectionId × CellAct) :
    c.reached now [v] = [v] ∨ c.reached now [v] = [(v.1, v.2.stalled)] := by
  rw [reached]
  split
  · exact .inl rfl
  · exact .inr rfl

theorem Paired.reached (paired : c.Paired d) (agree : ∀ v ∈ visits, c.cell? v.1 = d.cell? v.1) :
    c.reached now visits = d.reached now visits := by
  induction visits generalizing c d with
  | nil => rfl
  | cons v rest ih =>
    obtain ⟨first, later⟩ := List.forall_mem_cons.mp agree
    have next : (c.visit now v).1.reached now rest = (d.visit now v).1.reached now rest := by
      refine ih (((visit_paired now v).trans paired).trans (visit_paired now v).symm) fun w member => ?_
      rw [visit_cell?, visit_cell?, later w member, paired.policy]
    rw [Controller.reached, Controller.reached, next, paired.canTick now (by simpa using first)]

theorem halt?_some {halted : Controller × Effects} (stops : halt? now visits (c, e) = some halted) :
    halted.1 = (c.goOver now (c.reached now visits)).1 := by
  induction visits generalizing c e with
  | nil => cases stops
  | cons v rest ih =>
    obtain ⟨id, a⟩ := v
    simp only [halt?] at stops
    cases found : c.cell? id with
    | none =>
      rw [found] at stops
      rw [ih stops]
      simp [reached, canTick, found, goOver, visit]
    | some cell =>
      simp only [found] at stops
      split at stops
      next able =>
        rw [ih stops]
        simp [reached, canTick, found, able, goOver, visit]
      next stuck =>
        cases stops
        simp [reached, canTick, found, stuck, goOver, visit]

theorem halt?_none (through : halt? now visits (c, e) = none) : c.reached now visits = visits := by
  induction visits generalizing c e with
  | nil => rfl
  | cons v rest ih =>
    obtain ⟨id, a⟩ := v
    simp only [halt?] at through
    cases found : c.cell? id with
    | none =>
      rw [found] at through
      have rest := ih through
      simp [reached, canTick, found, visit, rest]
    | some cell =>
      simp only [found] at through
      split at through
      next able =>
        have rest := ih through
        simp [reached, canTick, found, able, visit, rest]
      next => cases through

theorem halt?_inside (inside : now.isFinalLeap = false) : halt? now visits (c, e) = none := by
  induction visits generalizing c e with
  | nil => rfl
  | cons v rest ih =>
    obtain ⟨id, a⟩ := v
    rw [halt?]
    cases c.cell? id with
    | none => exact ih
    | some cell =>
      have able : cell.canTick c.policy now = true := Signal.canTick_inside _ cell.signal inside
      simp only [able, if_true]
      exact ih

end

end Controller

namespace ControlRoom

def undertake (s : ControlRoom) (now : Instant) : Operation → Except ControlRoom ControlRoom
  | .line text => (s.ingestLine now text).map Prod.snd
  | .reading r => (s.ingest now r).map Prod.snd
  | .sweep => (s.sweep now).map Prod.snd
  | .wave route reason requestedBy => (s.wave now route reason requestedBy).map Prod.snd
  | .hold name color requestedBy => (s.hold now name color requestedBy).map Prod.snd
  | .status name => (s.view now name).map Prod.snd

def attempt (s : ControlRoom) (now : Instant) (op : Operation) : Option ControlRoom :=
  (s.undertake now op).toOption

def remains : Except ControlRoom ControlRoom → ControlRoom
  | .ok s | .error s => s

def perform (s : ControlRoom) (now : Instant) (op : Operation) : ControlRoom :=
  remains (s.undertake now op)

def run (s : ControlRoom) (steps : List (Instant × Operation)) : ControlRoom :=
  steps.foldl (fun s step => s.perform step.1 step.2) s

@[simp] theorem install_controller (s : ControlRoom) (c : Controller) (e : Effects) :
    (s.install c e).controller = c := rfl

theorem attempt_some {s s' : ControlRoom} {now : Instant} {op : Operation} :
    s.attempt now op = some s' ↔ s.undertake now op = .ok s' := by
  unfold attempt
  cases s.undertake now op <;> simp [Except.toOption]

theorem perform_done {s s' : ControlRoom} {now : Instant} {op : Operation}
    (done : s.attempt now op = some s') : s.perform now op = s' := by
  rw [perform, attempt_some.mp done]
  rfl

theorem noteFault_count (s : ControlRoom) (name : String) : ∃ f, s.noteFault name = s.count f := by
  unfold noteFault
  split
  next => exact ⟨id, rfl⟩
  next => exact ⟨_, rfl⟩

def Takes (s s' : ControlRoom) (done : Controller × Effects) : Prop :=
  ∃ f, s' = (s.count f).install done.1 done.2

/-- It completes, or stops and leaves what has been done so far. -/
def Ends (s : ControlRoom) (now : Instant) (done : Controller × Effects)
    (visits : List (IntersectionId × CellAct)) : Except ControlRoom ControlRoom → Prop
  | .ok s' => s.Takes s' done ∧ s.controller.reached now visits = visits
  | .error s' => ∃ n m, s' =
      s.install (s.controller.goOver now (s.controller.reached now visits)).1
        { changes := n, transitions := m }

section

variable (s : ControlRoom) (now : Instant)

theorem guardTick_inside {α : Type} {now : Instant} (inside : now.isFinalLeap = false)
    (visits : List (IntersectionId × CellAct)) (act : Act α) : s.guardTick now visits act = act := by
  rw [guardTick, Controller.halt?_inside inside]

theorem guardTick_ok {α : Type} {s : ControlRoom} {now : Instant} {visits : List (IntersectionId × CellAct)}
    {act : Act α} {result : α × ControlRoom} (done : s.guardTick now visits act = .ok result) :
    act = .ok result := by
  unfold guardTick at done
  split at done
  next => cases done
  next => exact done

theorem guardTick_left {α : Type} {s s' after : ControlRoom} {now : Instant}
    {visits : List (IntersectionId × CellAct)} {x : α}
    (done : (s.guardTick now visits (.ok (x, after))).map Prod.snd = .ok s') : s' = after := by
  unfold guardTick at done
  split at done
  · cases done
  · cases done
    rfl

theorem guardTick_ends {α : Type} {done : Controller × Effects} (visits : List (IntersectionId × CellAct))
    (x : α) {s' : ControlRoom} (takes : s.Takes s' done) :
    s.Ends now done visits ((s.guardTick now visits (.ok (x, s'))).map Prod.snd) := by
  unfold guardTick
  split
  next c e stops =>
    refine ⟨e.changes, e.transitions, ?_⟩
    rw [← Controller.halt?_some stops]
  next through => exact ⟨takes, Controller.halt?_none through⟩

theorem turned_ends {α : Type} (x : α) {s' : ControlRoom} (takes : s.Takes s' (s.controller, {})) :
    s.Ends now (s.controller, {}) [] ((Except.ok (x, s') : Act α).map Prod.snd) := ⟨takes, rfl⟩

theorem ingest_ends (r : Reading) :
    s.Ends now (s.controller.kept (s.controller.ingest now r)) (s.controller.visits now (.reading r))
      ((s.ingest now r).map Prod.snd) := by
  unfold ingest
  rw [Controller.visits_reading]
  cases found : s.controller.cell? r.intersection with
  | none =>
    rw [Controller.ingest_missing _ now r found]
    exact s.turned_ends now _ ⟨id, rfl⟩
  | some cell =>
    rw [Controller.ingest_found _ now r found]
    exact s.guardTick_ends now _ _ ⟨_, rfl⟩

theorem wave_ends (route : Route) (reason requestedBy : String) :
    s.Ends now (s.controller.kept (s.controller.wave now route reason requestedBy))
      (s.controller.visits now (.wave route reason requestedBy))
      ((s.wave now route reason requestedBy).map Prod.snd) := by
  unfold wave
  rcases s.controller.wave_cases now route reason requestedBy with
    ⟨missing, fault, turned⟩ | ⟨ids, cells, e, expanded, gathered, waved, _⟩
  · have none : s.controller.visits now (.wave route reason requestedBy) = [] := by
      cases expanded : s.controller.grid.expand route with
      | error fault => exact s.controller.visits_offRoute now expanded reason requestedBy
      | ok ids => rw [s.controller.visits_wave now expanded, if_neg (missing ids expanded)]
    rw [none, turned]
    exact s.turned_ends now _ ⟨id, rfl⟩
  · have all := (Controller.gather_isOk _ _).mp ⟨cells, gathered⟩
    rw [s.controller.visits_wave now expanded, if_pos all, waved]
    exact s.guardTick_ends now _ _ ⟨_, rfl⟩

theorem hold_ends (name : String) (color : Color) (requestedBy : String) :
    s.Ends now (s.controller.kept (s.controller.hold now name color requestedBy))
      (s.controller.visits now (.hold name color requestedBy))
      ((s.hold now name color requestedBy).map Prod.snd) := by
  unfold hold
  rw [Controller.visits_hold]
  rcases s.controller.hold_cases now name color requestedBy with
    ⟨missing, fault, turned⟩ | ⟨cell, e, listed, found, held, _⟩
  · rw [if_neg fun there => by simp [missing there.1] at there, turned]
    obtain ⟨f, counted⟩ := s.noteFault_count name
    exact s.turned_ends now _ ⟨f, by rw [counted]; rfl⟩
  · rw [if_pos ⟨listed, by rw [found]; rfl⟩, held]
    refine s.guardTick_ends now _ _ ?_
    dsimp only [Controller.kept]
    split
    · exact ⟨_, rfl⟩
    · exact ⟨id, rfl⟩

theorem view_ends (name : String) :
    s.Ends now (s.controller, {}) [] ((s.view now name).map Prod.snd) := by
  unfold view
  split
  · split
    · exact s.turned_ends now _ ⟨id, rfl⟩
    · exact ⟨0, 0, rfl⟩
  · obtain ⟨f, counted⟩ := s.noteFault_count name
    exact s.turned_ends now _ ⟨f, by rw [counted]; rfl⟩

theorem undertake_ends (op : Operation) :
    s.Ends now (s.controller.operate now op) (s.controller.visits now op) (s.undertake now op) := by
  cases op with
  | line text =>
    simp only [undertake, ingestLine, Controller.operate, Controller.visits, Controller.plan]
    cases SensorLine.parse s.controller.grid text with
    | accepted r => exact s.ingest_ends now r
    | rejected fault => exact s.turned_ends now _ ⟨noteLineFault fault, rfl⟩
    | overflow => exact ⟨0, 0, rfl⟩
  | reading r => exact s.ingest_ends now r
  | sweep => exact s.guardTick_ends now _ _ ⟨id, rfl⟩
  | wave route reason requestedBy => exact s.wave_ends now route reason requestedBy
  | hold name color requestedBy => exact s.hold_ends now name color requestedBy
  | status name => exact s.view_ends now name

end

def visits (s : ControlRoom) (now : Instant) (op : Operation) : List (IntersectionId × CellAct) :=
  s.controller.reached now (s.controller.visits now op)

def acts (s : ControlRoom) (now : Instant) (id : IntersectionId) (op : Operation) : List CellAct :=
  actsOn id (s.visits now op)

theorem visits_brought {s : ControlRoom} {now : Instant} {op : Operation} {v : IntersectionId × CellAct}
    (member : v ∈ s.visits now op) :
    ∃ a, op.Brings s.controller.grid (v.1, a) ∧ (v.2 = a ∨ v.2 = a.stalled) := by
  obtain ⟨⟨id, a⟩, planned, rfl, same⟩ := Controller.mem_reached member
  exact ⟨a, Controller.visits_brought planned, same⟩

theorem acts_reading (s : ControlRoom) (now : Instant) (id : IntersectionId) (r : Reading) :
    s.acts now id (.reading r) = [] ∨ r.intersection = id ∧
      (s.acts now id (.reading r) = [.ingest r] ∨ s.acts now id (.reading r) = [.stall (some r)]) := by
  unfold acts visits
  rw [Controller.visits_reading]
  split
  · rcases s.controller.reached_single now (r.intersection, .ingest r) with whole | stuck
    · rw [whole]
      by_cases same : r.intersection = id <;> simp [actsOn, same]
    · rw [stuck]
      by_cases same : r.intersection = id <;> simp [actsOn, same, CellAct.stalled]
  · exact .inl rfl

section

variable {s s' : ControlRoom} {now : Instant} {op : Operation}

theorem attempt_takes (done : s.attempt now op = some s') : s.Takes s' (s.controller.operate now op) := by
  have ends := s.undertake_ends now op
  rw [attempt_some.mp done] at ends
  exact ends.1

theorem visits_done (done : (s.attempt now op).isSome) : s.visits now op = s.controller.visits now op := by
  obtain ⟨s', done⟩ := Option.isSome_iff_exists.mp done
  have ends := s.undertake_ends now op
  rw [attempt_some.mp done] at ends
  exact ends.2

theorem perform_stopped (stopped : s.attempt now op = none) :
    ∃ n m, s.perform now op =
      s.install (s.controller.goOver now (s.visits now op)).1 { changes := n, transitions := m } := by
  have ends := s.undertake_ends now op
  unfold attempt at stopped
  unfold perform
  cases undertaken : s.undertake now op with
  | ok s' =>
    rw [undertaken] at stopped
    cases stopped
  | error s' =>
    rw [undertaken] at ends
    exact ends

variable (s now op)

theorem perform_controller :
    (s.perform now op).controller = (s.controller.goOver now (s.visits now op)).1 := by
  cases attempted : s.attempt now op with
  | none =>
    obtain ⟨n, m, left⟩ := perform_stopped attempted
    rw [left, install_controller]
  | some s' =>
    obtain ⟨f, rfl⟩ := attempt_takes attempted
    rw [perform_done attempted, visits_done (by rw [attempted]; rfl), install_controller,
      Controller.operate_visits]

theorem perform_paired : (s.perform now op).controller.Paired s.controller := by
  rw [perform_controller]
  exact Controller.goOver_paired now _

theorem perform_cell? (id : IntersectionId) :
    (s.perform now op).controller.cell? id =
      (s.controller.cell? id).map fun cell =>
        (cell.undergo s.controller.policy id now (s.acts now id op)).1 := by
  rw [perform_controller, Controller.goOver_cell?, acts]

end

theorem run_cons (s : ControlRoom) (now : Instant) (op : Operation)
    (steps : List (Instant × Operation)) :
    s.run ((now, op) :: steps) = (s.perform now op).run steps := rfl

theorem run_append (s : ControlRoom) (first second : List (Instant × Operation)) :
    s.run (first ++ second) = (s.run first).run second := List.foldl_append

theorem run_paired (s : ControlRoom) (steps : List (Instant × Operation)) :
    (s.run steps).controller.Paired s.controller := by
  induction steps generalizing s with
  | nil => exact .refl _
  | cons step rest ih => exact (ih _).trans (s.perform_paired step.1 step.2)

theorem run_cells {kept : Cell → Prop} {s : ControlRoom}
    (step : ∀ id now a c, kept c → kept (c.act s.controller.policy id now a).cell)
    (start : ∀ id cell, s.controller.cell? id = some cell → kept cell)
    (steps : List (Instant × Operation)) (id : IntersectionId) (cell : Cell)
    (found : (s.run steps).controller.cell? id = some cell) : kept cell := by
  induction steps generalizing s with
  | nil => exact start id cell found
  | cons first rest ih =>
    obtain ⟨now, op⟩ := first
    have policy := (s.perform_paired now op).policy
    refine @ih (s.perform now op) (policy ▸ step) ?_ found
    intro other later held
    rw [perform_cell?, Option.map_eq_some_iff] at held
    obtain ⟨before, there, rfl⟩ := held
    exact Cell.undergo_keeps _ (fun a _ => step other now a) (start other before there)

section

variable (s : ControlRoom) {now : Instant} {op : Operation} (inside : now.isFinalLeap = false)

include inside

theorem visits_inside (op : Operation) : s.visits now op = s.controller.visits now op :=
  Controller.reached_inside inside _

theorem attempt_inside
    (readable : ∀ text, op = .line text → SensorLine.parse s.controller.grid text ≠ .overflow) :
    (s.attempt now op).isSome := by
  have reading : ∀ r, ((s.ingest now r).map Prod.snd).toOption.isSome := by
    intro r
    simp only [ingest, guardTick_inside s inside]
    split <;> rfl
  cases op with
  | line text =>
    simp only [attempt, undertake, ingestLine]
    split
    next => exact reading _
    next => rfl
    next overflowed => exact absurd overflowed (readable text rfl)
  | reading r => exact reading r
  | sweep =>
    simp only [attempt, undertake, sweep, guardTick_inside s inside]
    rfl
  | wave route reason requestedBy =>
    simp only [attempt, undertake, wave, guardTick_inside s inside]
    split <;> rfl
  | hold name color requestedBy =>
    simp only [attempt, undertake, hold, guardTick_inside s inside]
    split <;> rfl
  | status name =>
    simp only [attempt, undertake, view, s.controller.canTick_inside inside, if_true]
    split <;> rfl

theorem perform_stopped_inside (stopped : s.attempt now op = none) : s.perform now op = s := by
  by_cases readable : ∀ text, op = .line text → SensorLine.parse s.controller.grid text ≠ .overflow
  · have done := s.attempt_inside inside readable
    rw [stopped] at done
    cases done
  · push Not at readable
    obtain ⟨text, rfl, overflowed⟩ := readable
    simp only [perform, undertake, ingestLine, overflowed]
    rfl

end

end ControlRoom

end Signalgrid
