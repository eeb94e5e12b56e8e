import Signalgrid.ControlRoom
import Signalgrid.Proofs.Control.Cells
import Signalgrid.Proofs.Control.Passes

set_option autoImplicit false

namespace Signalgrid

inductive Operation where
  | line (text : List Char)
  | reading (r : Reading)
  | sweep
  | wave (route : Route) (reason requestedBy : String)
  | hold (name : String) (color : Color) (requestedBy : String)
  | status (name : String)

namespace Cell

def undergo (policy : Policy) (id : IntersectionId) (now : Instant) :
    Cell → List CellAct → Cell × List Record
  | c, [] => (c, [])
  | c, a :: rest =>
      let p := c.act policy id now a
      let (c', records) := undergo policy id now p.cell rest
      (c', p.records ++ records)

theorem undergo_keeps (kept : Cell → Prop) {policy : Policy} {id : IntersectionId} {now : Instant}
    {acts : List CellAct} (step : ∀ a ∈ acts, ∀ c, kept c → kept (c.act policy id now a).cell) {c : Cell}
    (first : kept c) : kept (c.undergo policy id now acts).1 := by
  induction acts generalizing c with
  | nil => exact first
  | cons a rest ih =>
    obtain ⟨here, later⟩ := List.forall_mem_cons.mp step
    exact ih later (here c first)

end Cell

def Record.isDecision : Record → Bool
  | .decision _ => true
  | _ => false

structure Plan where
  opening : Option Reading := none
  visits : List (IntersectionId × CellAct)
  closing : Option Override := none
  -- Nothing is closed if nothing has been decided.
  conditional : Bool := false

inductive Operation.Brings (g : Grid) : Operation → IntersectionId × CellAct → Prop where
  | line {text : List Char} {r : Reading} (parsed : SensorLine.parse g text = .accepted r) :
      Brings g (.line text) (r.intersection, .ingest r)
  | reading (r : Reading) : Brings g (.reading r) (r.intersection, .ingest r)
  | sweep {id : IntersectionId} (listed : id ∈ g.ids) : Brings g .sweep (id, .sweep)
  | wave {route : Route} {reason requestedBy : String} {ids : List IntersectionId} {id : IntersectionId}
      (expanded : g.expand route = .ok ids) (affected : id ∈ ids) :
      Brings g (.wave route reason requestedBy) (id, .wave reason)
  | hold {name : String} {color : Color} {requestedBy : String} :
      Brings g (.hold name color requestedBy) (name, .hold color)

def Plan.written (p : Plan) (rs : List Record) : List Record :=
  p.opening.toList.map Record.event ++ rs ++
    if p.conditional && !rs.any Record.isDecision then [] else p.closing.toList.map Record.action

def actsOn (id : IntersectionId) (visits : List (IntersectionId × CellAct)) : List CellAct :=
  visits.filterMap fun v => if v.1 = id then some v.2 else none

theorem mem_actsOn {id : IntersectionId} {visits : List (IntersectionId × CellAct)} {a : CellAct} :
    a ∈ actsOn id visits ↔ (id, a) ∈ visits := by
  simp only [actsOn, List.mem_filterMap]
  constructor
  · rintro ⟨⟨other, b⟩, member, found⟩
    split at found
    next same =>
      cases found
      exact same ▸ member
    next => cases found
  · exact fun member => ⟨(id, a), member, if_pos rfl⟩

theorem actsOn_map (id : IntersectionId) (ids : List IntersectionId) (a : CellAct) :
    actsOn id (ids.map (·, a)) = List.replicate (ids.count id) a := by
  induction ids with
  | nil => rfl
  | cons first rest ih =>
    rw [List.map_cons, actsOn, List.filterMap_cons, ← actsOn, ih]
    by_cases same : first = id
    · rw [if_pos same, same, List.count_cons_self, List.replicate_succ]
    · rw [if_neg same, List.count_cons_of_ne same]

namespace Controller

def kept {α : Type} (c : Controller) :
    Except ControlFault (Controller × Effects × α) → Controller × Effects
  | .ok (c', e, _) => (c', e)
  | .error _ => (c, {})

def operate (c : Controller) (now : Instant) : Operation → Controller × Effects
  | .line text =>
      match SensorLine.parse c.grid text with
      | .accepted r => c.kept (c.ingest now r)
      | _ => (c, {})
  | .reading r => c.kept (c.ingest now r)
  | .sweep => c.sweep now
  | .wave route reason requestedBy => c.kept (c.wave now route reason requestedBy)
  | .hold name color requestedBy => c.kept (c.hold now name color requestedBy)
  | .status _ => (c, {})

def planReading (c : Controller) (r : Reading) : Option Plan :=
  if (c.cell? r.intersection).isSome then
    some { opening := some r, visits := [(r.intersection, .ingest r)] }
  else none

def plan (c : Controller) (now : Instant) : Operation → Option Plan
  | .line text =>
      match SensorLine.parse c.grid text with
      | .accepted r => c.planReading r
      | _ => none
  | .reading r => c.planReading r
  | .sweep => some { visits := c.grid.ids.map (·, .sweep) }
  | .wave route reason requestedBy =>
      match c.grid.expand route with
      | .ok ids =>
          if ∀ id ∈ ids, (c.cell? id).isSome then
            some
              { visits := ids.map (·, .wave reason)
                closing := some ⟨.greenWave, route.describe, reason, requestedBy, ids, now⟩ }
          else none
      | .error _ => none
  | .hold name color requestedBy =>
      if name ∈ c.grid.ids ∧ (c.cell? name).isSome then
        some
          { visits := [(name, .hold color)]
            closing := some (holdAct name color requestedBy now)
            conditional := true }
      else none
  | .status _ => none

def visit (c : Controller) (now : Instant) (v : IntersectionId × CellAct) : Controller × List Record :=
  match c.cell? v.1 with
  | some cell =>
      let p := cell.act c.policy v.1 now v.2
      (c.setCell v.1 p.cell, p.records)
  | none => (c, [])

def goOver (now : Instant) : Controller → List (IntersectionId × CellAct) → Controller × List Record
  | c, [] => (c, [])
  | c, v :: rest =>
      let (c, records) := c.visit now v
      let (c, more) := goOver now c rest
      (c, records ++ more)

def visits (c : Controller) (now : Instant) (op : Operation) : List (IntersectionId × CellAct) :=
  ((c.plan now op).map Plan.visits).getD []

structure Paired (c d : Controller) : Prop where
  grid : c.grid = d.grid
  policy : c.policy = d.policy
  present : ∀ id, (c.cell? id).isSome = (d.cell? id).isSome

theorem Paired.refl (c : Controller) : c.Paired c := ⟨rfl, rfl, fun _ => rfl⟩

theorem Paired.symm {c d : Controller} (paired : c.Paired d) : d.Paired c :=
  ⟨paired.grid.symm, paired.policy.symm, fun id => (paired.present id).symm⟩

theorem Paired.trans {c d e : Controller} (first : c.Paired d) (second : d.Paired e) : c.Paired e :=
  ⟨first.grid.trans second.grid, first.policy.trans second.policy,
    fun id => (first.present id).trans (second.present id)⟩

section

variable {c : Controller} (now : Instant)

theorem visit_found {v : IntersectionId × CellAct} {cell : Cell} (found : c.cell? v.1 = some cell) :
    c.visit now v =
      (c.setCell v.1 (cell.act c.policy v.1 now v.2).cell, (cell.act c.policy v.1 now v.2).records) := by
  simp only [visit, found]

theorem visit_missing {v : IntersectionId × CellAct} (missing : c.cell? v.1 = none) :
    c.visit now v = (c, []) := by
  simp only [visit, missing]

theorem visit_stalled (v : IntersectionId × CellAct) : (c.visit now (v.1, v.2.stalled)).2 = [] := by
  cases found : c.cell? v.1 with
  | none => rw [@visit_missing c now (v.1, v.2.stalled) found]
  | some cell =>
    rw [@visit_found c now (v.1, v.2.stalled) cell found]
    cases v.2 <;> rfl

theorem visit_paired (v : IntersectionId × CellAct) : (c.visit now v).1.Paired c := by
  cases found : c.cell? v.1 with
  | none =>
    rw [visit_missing now found]
    exact .refl c
  | some cell =>
    rw [visit_found now found]
    refine ⟨rfl, rfl, fun id => ?_⟩
    rw [cell?_setCell]
    split <;> simp

theorem visit_cell? (v : IntersectionId × CellAct) (id : IntersectionId) :
    (c.visit now v).1.cell? id =
      (c.cell? id).map fun cell => if v.1 = id then (cell.act c.policy id now v.2).cell else cell := by
  by_cases same : v.1 = id
  · subst same
    cases found : c.cell? v.1 with
    | none => simp [visit_missing now found, found]
    | some cell => simp [visit_found now found, cell?_setCell, found]
  · have apart : ¬ id = v.1 := fun h => same h.symm
    cases found : c.cell? v.1 with
    | none => simp [visit_missing now found, same]
    | some cell => simp [visit_found now found, cell?_setCell, same, apart]

theorem goOver_single (v : IntersectionId × CellAct) : c.goOver now [v] = c.visit now v := by
  simp [goOver]

theorem goOver_paired (visits : List (IntersectionId × CellAct)) : (c.goOver now visits).1.Paired c := by
  induction visits generalizing c with
  | nil => exact .refl c
  | cons v rest ih => exact (@ih (c.visit now v).1).trans (visit_paired now v)

theorem goOver_cell? (visits : List (IntersectionId × CellAct)) (id : IntersectionId) :
    (c.goOver now visits).1.cell? id =
      (c.cell? id).map fun cell => (cell.undergo c.policy id now (actsOn id visits)).1 := by
  induction visits generalizing c with
  | nil => simp [goOver, actsOn, Cell.undergo]
  | cons v rest ih =>
    rw [goOver, ih, visit_cell? now v id, Option.map_map, (visit_paired now v).policy]
    by_cases same : v.1 = id
    · simp [actsOn, same, Cell.undergo, Function.comp_def]
    · simp [actsOn, same, Function.comp_def]

theorem goOver_records (visits : List (IntersectionId × CellAct)) {id : IntersectionId} {cell : Cell}
    (found : c.cell? id = some cell) :
    (cell.undergo c.policy id now (actsOn id visits)).2 ⊆ (c.goOver now visits).2 := by
  induction visits generalizing c cell with
  | nil => simp [actsOn, Cell.undergo]
  | cons v rest ih =>
    have next := visit_cell? (c := c) now v id
    rw [found, Option.map_some] at next
    have later := ih next
    rw [(visit_paired now v).policy] at later
    rw [goOver]
    by_cases same : v.1 = id
    · subst same
      simp only [if_true] at later
      simp only [actsOn, List.filterMap_cons, if_true, Cell.undergo, visit_found now found] at later ⊢
      exact List.append_subset.mpr ⟨List.subset_append_left _ _, List.subset_append_of_subset_right _ later⟩
    · simp only [same, if_false] at later
      simp only [actsOn, List.filterMap_cons, same, if_false]
      exact List.subset_append_of_subset_right _ later

theorem sweepCells_goOver (ids : List IntersectionId) (e : Effects) :
    (sweepCells now ids (c, e)).1 = (c.goOver now (ids.map (·, .sweep))).1 ∧
      (sweepCells now ids (c, e)).2.records =
        e.records ++ (c.goOver now (ids.map (·, .sweep))).2 := by
  induction ids generalizing c e with
  | nil => simp [sweepCells, goOver]
  | cons id rest ih =>
    rw [List.map_cons, goOver, sweepCells]
    cases found : c.cell? id with
    | none => simpa [@visit_missing c now (id, .sweep) found] using @ih c e
    | some cell =>
      obtain ⟨same, records⟩ :=
        @ih (c.setCell id (cell.sweep c.policy id now).cell) (e.append (.ofPass (cell.sweep c.policy id now)))
      rw [@visit_found c now (id, .sweep) _ found]
      exact ⟨same, records.trans (List.append_assoc ..)⟩

/-- No cell is met twice on a route, so a wave finds each as it was gathered. -/
theorem waveCells_goOver (reason : String) (cells : List (IntersectionId × Cell)) (e : Effects)
    (once : (cells.map Prod.fst).Nodup) (held : ∀ entry ∈ cells, c.cell? entry.1 = some entry.2) :
    (waveCells reason now cells (c, e)).1 =
        (c.goOver now ((cells.map Prod.fst).map (·, .wave reason))).1 ∧
      (waveCells reason now cells (c, e)).2.records =
        e.records ++ (c.goOver now ((cells.map Prod.fst).map (·, .wave reason))).2 := by
  induction cells generalizing c e with
  | nil => simp [waveCells, goOver]
  | cons entry rest ih =>
    obtain ⟨id, cell⟩ := entry
    rw [List.map_cons, List.nodup_cons] at once
    have found : c.cell? id = some cell := held (id, cell) (by simp)
    have later : ∀ entry ∈ rest,
        (c.setCell id (cell.wave c.policy id reason now).cell).cell? entry.1 = some entry.2 := by
      intro entry member
      have apart : ¬ entry.1 = id := fun same => once.1 (List.mem_map.mpr ⟨entry, member, same⟩)
      rw [cell?_setCell, if_neg apart]
      exact held entry (List.mem_cons_of_mem _ member)
    obtain ⟨same, records⟩ := ih (e.append (.ofPass (cell.wave c.policy id reason now))) once.2 later
    rw [List.map_cons, List.map_cons, goOver, @visit_found c now (id, .wave reason) _ found]
    exact ⟨same, records.trans (List.append_assoc ..)⟩

end

section

variable (c : Controller) (now : Instant)

theorem wave_cases (route : Route) (reason requestedBy : String) :
    ((∀ ids, c.grid.expand route = .ok ids → ¬ ∀ id ∈ ids, (c.cell? id).isSome) ∧
        ∃ fault, c.wave now route reason requestedBy = .error fault) ∨
      ∃ ids cells e, c.grid.expand route = .ok ids ∧ c.gather ids = .ok cells ∧
        c.wave now route reason requestedBy =
          .ok ((waveCells reason now cells (c, {})).1, e,
            ⟨ids, now.after c.policy.timings.waveSeconds⟩) ∧
        e.records = (waveCells reason now cells (c, {})).2.records ++
          [.action ⟨.greenWave, route.describe, reason, requestedBy, ids, now⟩] := by
  unfold wave
  cases expanded : c.grid.expand route with
  | error fault =>
    refine .inl ⟨?_, _, rfl⟩
    intro ids same
    cases same
  | ok ids =>
    cases gathered : c.gather ids with
    | error fault =>
      have sought : ids.mapM (fun id => (c.need id).map (id, ·)) = .error fault := gathered
      refine .inl ⟨?_, fault, ?_⟩
      · intro others same all
        cases same
        obtain ⟨cells, gathers⟩ := (gather_isOk c ids).mpr all
        rw [gathered] at gathers
        cases gathers
      · change (ids.mapM fun id => (c.need id).map (id, ·)) >>= _ = _
        rw [sought]
        rfl
    | ok cells =>
      have sought : ids.mapM (fun id => (c.need id).map (id, ·)) = .ok cells := gathered
      refine .inr ⟨ids, cells, ?_, rfl, gathered, ?_, ?_⟩
      rotate_left
      · change (ids.mapM fun id => (c.need id).map (id, ·)) >>= _ = _
        rw [sought]
        rfl
      · rfl

theorem hold_cases (name : String) (color : Color) (requestedBy : String) :
    ((name ∈ c.grid.ids → c.cell? name = none) ∧
        ∃ fault, c.hold now name color requestedBy = .error fault) ∨
      ∃ cell e, name ∈ c.grid.ids ∧ c.cell? name = some cell ∧
        c.hold now name color requestedBy =
          .ok (c.setCell name (cell.hold c.policy name color now).1.cell, e,
            ⟨name, color, (cell.hold c.policy name color now).2⟩) ∧
        e.records = (cell.hold c.policy name color now).1.records ++
          if (cell.hold c.policy name color now).2 then [.action (holdAct name color requestedBy now)]
          else [] := by
  unfold hold
  by_cases listed : name ∈ c.grid.ids
  · rw [resolve_ok_iff.mpr ⟨rfl, listed⟩]
    cases found : c.cell? name with
    | none =>
      refine .inl ⟨fun _ => rfl, .unknownIntersection name, ?_⟩
      simp only [bind, Except.bind, need, found]
    | some cell =>
      refine .inr ⟨cell, ?_, listed, rfl, ?_, ?_⟩
      rotate_left
      · simp only [bind, Except.bind, need, found]
        rfl
      · split <;> simp_all [Effects.ofPass]
  · cases resolved : c.resolve name with
    | error fault => exact .inl ⟨fun member => absurd member listed, fault, rfl⟩
    | ok id => exact absurd (resolve_ok_iff.mp resolved).2 listed

theorem ingest_found (r : Reading) {cell : Cell} (found : c.cell? r.intersection = some cell) :
    c.ingest now r =
      .ok (c.setCell r.intersection (cell.ingest c.policy now r).1.cell,
        { Effects.ofPass (cell.ingest c.policy now r).1 with
          records := .event r :: (cell.ingest c.policy now r).1.records },
        ⟨(cell.ingest c.policy now r).1.cell.traffic.kind, (cell.ingest c.policy now r).1.cell.signal.color,
          (cell.ingest c.policy now r).2, (cell.ingest c.policy now r).1.records.length + 1⟩) := by
  simp only [ingest, need, found]
  rfl

theorem ingest_missing (r : Reading) (missing : c.cell? r.intersection = none) :
    c.ingest now r = .error (.unknownIntersection r.intersection) := by
  simp only [ingest, need, missing]
  rfl

end

end Controller

theorem Cell.hold_applied (policy : Policy) (id : IntersectionId) (color : Color) (now : Instant)
    (c : Cell) :
    (c.hold policy id color now).2 = (c.hold policy id color now).1.records.any Record.isDecision := by
  have undecided : ∀ change : Option Transition,
      (change.toList.map Record.change).any Record.isDecision = false := by
    intro change
    cases change <;> rfl
  simp only [hold]
  split
  · simp [Pass.decide, Record.isDecision]
  · simp [Pass.command, Pass.tick, Pass.note_records, undecided]

namespace Controller

section

variable (c : Controller) (now : Instant)

def Follows (c : Controller) (now : Instant) (done : Controller × Effects) : Option Plan → Prop
  | some p => done.1 = (c.goOver now p.visits).1 ∧ done.2.records = p.written (c.goOver now p.visits).2
  | none => done = (c, {})

theorem visits_reading (r : Reading) : c.visits now (.reading r) =
    if (c.cell? r.intersection).isSome then [(r.intersection, .ingest r)] else [] := by
  simp only [visits, plan, planReading]
  split <;> rfl

theorem visits_hold (name : String) (color : Color) (requestedBy : String) :
    c.visits now (.hold name color requestedBy) =
      if name ∈ c.grid.ids ∧ (c.cell? name).isSome then [(name, .hold color)] else [] := by
  simp only [visits, plan]
  split <;> rfl

theorem visits_wave {route : Route} {ids : List IntersectionId} (expanded : c.grid.expand route = .ok ids)
    (reason requestedBy : String) : c.visits now (.wave route reason requestedBy) =
      if ∀ id ∈ ids, (c.cell? id).isSome then ids.map (·, .wave reason) else [] := by
  simp only [visits, plan, expanded]
  split <;> rfl

theorem visits_offRoute {route : Route} {fault : GridFault} (turned : c.grid.expand route = .error fault)
    (reason requestedBy : String) : c.visits now (.wave route reason requestedBy) = [] := by
  simp only [visits, plan, turned]
  rfl

theorem visits_brought {c : Controller} {now : Instant} {op : Operation} {v : IntersectionId × CellAct}
    (member : v ∈ c.visits now op) : op.Brings c.grid v := by
  have reading : ∀ r, v ∈ c.visits now (.reading r) → v = (r.intersection, .ingest r) := by
    intro r member
    rw [visits_reading] at member
    split at member
    · exact List.mem_singleton.mp member
    · simp at member
  cases op with
  | line text =>
    cases parsed : SensorLine.parse c.grid text with
    | accepted r =>
      simp only [visits, plan, parsed] at member
      rw [reading r member]
      exact .line parsed
    | rejected fault => simp [visits, plan, parsed] at member
    | overflow => simp [visits, plan, parsed] at member
  | reading r =>
    rw [reading r member]
    exact .reading r
  | sweep =>
    obtain ⟨id, listed, rfl⟩ := List.mem_map.mp member
    exact .sweep listed
  | wave route reason requestedBy =>
    cases expanded : c.grid.expand route with
    | error fault => simp [visits_offRoute c now expanded] at member
    | ok ids =>
      rw [visits_wave c now expanded] at member
      split at member
      · obtain ⟨id, affected, rfl⟩ := List.mem_map.mp member
        exact .wave expanded affected
      · simp at member
  | hold name color requestedBy =>
    rw [visits_hold] at member
    split at member
    · rw [List.mem_singleton.mp member]
      exact .hold
    · simp at member
  | status name => simp [visits, plan] at member

theorem ingest_follows (r : Reading) :
    c.Follows now (c.kept (c.ingest now r)) (c.planReading r) := by
  unfold planReading
  cases found : c.cell? r.intersection with
  | none =>
    rw [ingest_missing c now r found]
    rfl
  | some cell =>
    rw [ingest_found c now r found]
    simp [Follows, kept, goOver_single, visit, found, Plan.written, Cell.act]

theorem hold_follows (name : String) (color : Color) (requestedBy : String) :
    c.Follows now (c.kept (c.hold now name color requestedBy))
      (c.plan now (.hold name color requestedBy)) := by
  simp only [plan]
  rcases c.hold_cases now name color requestedBy with
    ⟨missing, fault, turned⟩ | ⟨cell, e, listed, found, held, records⟩
  · rw [turned, if_neg fun covered => by simp [missing covered.1] at covered]
    rfl
  · rw [held, if_pos ⟨listed, by simp [found]⟩]
    simp only [Follows, kept, goOver_single, visit, found, Cell.act, Plan.written, true_and, records,
      Cell.hold_applied]
    cases (cell.hold c.policy name color now).1.records.any Record.isDecision <;> simp

theorem wave_follows (route : Route) (reason requestedBy : String) :
    c.Follows now (c.kept (c.wave now route reason requestedBy))
      (c.plan now (.wave route reason requestedBy)) := by
  simp only [plan]
  rcases c.wave_cases now route reason requestedBy with
    ⟨missing, fault, turned⟩ | ⟨ids, cells, e, expanded, gathered, waved, records⟩
  · rw [turned]
    split
    next ids expanded =>
      rw [if_neg (missing ids expanded)]
      rfl
    next => rfl
  · obtain ⟨names, held⟩ := gather_ok gathered
    have once : (cells.map Prod.fst).Nodup := names ▸ Grid.expand_nodup expanded
    obtain ⟨same, gone⟩ := waveCells_goOver now reason cells {} once held
    rw [names] at same gone
    simp only [waved, expanded, if_pos ((gather_isOk c ids).mp ⟨cells, gathered⟩), Follows, kept,
      Plan.written, records, same, gone]
    simp

theorem operate_follows (op : Operation) : c.Follows now (c.operate now op) (c.plan now op) := by
  cases op with
  | line text =>
    simp only [operate, plan]
    cases SensorLine.parse c.grid text with
    | accepted r => exact c.ingest_follows now r
    | rejected fault => rfl
    | overflow => rfl
  | reading r => exact c.ingest_follows now r
  | sweep =>
    obtain ⟨same, records⟩ := sweepCells_goOver (c := c) now c.grid.ids {}
    refine ⟨same, records.trans ?_⟩
    simp [Plan.written]
  | wave route reason requestedBy => exact c.wave_follows now route reason requestedBy
  | hold name color requestedBy => exact c.hold_follows now name color requestedBy
  | status name => rfl

theorem operate_visits (op : Operation) : (c.operate now op).1 = (c.goOver now (c.visits now op)).1 := by
  have follows := c.operate_follows now op
  unfold visits
  cases planned : c.plan now op with
  | none =>
    rw [planned] at follows
    rw [follows]
    rfl
  | some p =>
    rw [planned] at follows
    exact follows.1

theorem operate_paired (op : Operation) : (c.operate now op).1.Paired c := by
  rw [operate_visits]
  exact goOver_paired now _

theorem operate_records (op : Operation) :
    (c.goOver now (c.visits now op)).2 ⊆ (c.operate now op).2.records := by
  have follows := c.operate_follows now op
  unfold visits
  cases planned : c.plan now op with
  | none => simp [goOver]
  | some p =>
    rw [planned] at follows
    rw [follows.2]
    exact List.subset_append_of_subset_left _ (List.subset_append_right _ _)

end

end Controller

end Signalgrid
