import Signalgrid.Control.Controller

set_option autoImplicit false

namespace Signalgrid

namespace Grid

theorem mem_distinct (id : IntersectionId) (seen ids : List IntersectionId) :
    id ∈ distinct seen ids ↔ id ∈ ids ∧ id ∉ seen := by
  induction ids generalizing seen with
  | nil => simp [distinct]
  | cons first rest ih =>
    simp only [distinct]
    split
    next known =>
      rw [ih]
      by_cases same : id = first <;> simp_all
    next new =>
      rw [List.mem_cons, ih]
      by_cases same : id = first <;> simp_all

theorem distinct_nodup (seen ids : List IntersectionId) : (distinct seen ids).Nodup := by
  induction ids generalizing seen with
  | nil => simp [distinct]
  | cons first rest ih =>
    simp only [distinct]
    split
    next => exact ih seen
    next => exact List.nodup_cons.mpr ⟨by simp [mem_distinct], ih _⟩

theorem expand_nodup {g : Grid} {route : Route} {ids : List IntersectionId}
    (expanded : g.expand route = .ok ids) : ids.Nodup := by
  unfold expand at expanded
  cases members : g.members route with
  | error fault => simp [members, bind, Except.bind] at expanded
  | ok all =>
    simp only [members, bind, Except.bind] at expanded
    split at expanded
    · cases expanded
    · cases expanded
      exact distinct_nodup [] all

end Grid

namespace Controller

theorem cell?_setCell (c : Controller) (id other : IntersectionId) (cell : Cell) :
    (c.setCell id cell).cell? other =
      if other = id then (c.cell? other).map fun _ => cell else c.cell? other := by
  unfold setCell cell?
  induction c.cells with
  | nil => simp
  | cons entry rest ih =>
    obtain ⟨key, old⟩ := entry
    by_cases same : key = id
    · by_cases asked : other = id
      · simp [same, asked]
      · have missed : (other == id) = false := by simpa using asked
        simpa [same, asked, List.lookup_cons, missed] using ih
    · by_cases asked : other = key
      · have apart : ¬ other = id := fun h => same (asked.symm.trans h)
        simp [same, asked]
      · have missed : (other == key) = false := by simpa using asked
        simpa [same, List.lookup_cons, missed] using ih

theorem cell?_ofSettings (s : Settings) (now : Instant) (id : IntersectionId) :
    (ofSettings s now).cell? id = if id ∈ s.intersections then some (.start now) else none := by
  have listed : ∀ ids : List IntersectionId,
      (ids.map fun i => (i, Cell.start now)).lookup id = if id ∈ ids then some (.start now) else none := by
    intro ids
    induction ids with
    | nil => rfl
    | cons first rest ih =>
      by_cases same : id = first
      · simp [same]
      · have missed : (id == first) = false := by simpa using same
        simpa [List.lookup_cons, missed, same] using ih
  simp only [cell?, ofSettings, Grid.ofSettings, listed, Grid.mem_distinct]
  simp

theorem need_ok_iff {c : Controller} {id : IntersectionId} {cell : Cell} :
    c.need id = .ok cell ↔ c.cell? id = some cell := by
  unfold need
  cases c.cell? id <;> simp

theorem resolve_ok_iff {c : Controller} {name id : String} :
    c.resolve name = .ok id ↔ name = id ∧ name ∈ c.grid.ids := by
  unfold resolve Grid.resolve
  split
  next listed =>
    change Except.ok name = Except.ok id ↔ _
    simp [listed]
  next unlisted =>
    change Except.error _ = Except.ok id ↔ _
    simp [unlisted]

def gather (c : Controller) (ids : List IntersectionId) :
    Except ControlFault (List (IntersectionId × Cell)) :=
  ids.mapM fun id => (c.need id).map (id, ·)

theorem gather_cons (c : Controller) (id : IntersectionId) (rest : List IntersectionId) :
    c.gather (id :: rest) = (c.need id).bind fun cell => (c.gather rest).map ((id, cell) :: ·) := by
  simp only [gather, List.mapM_cons, bind, pure]
  cases c.need id with
  | error fault => rfl
  | ok cell => rfl

theorem gather_ok {c : Controller} {ids : List IntersectionId} {cells : List (IntersectionId × Cell)}
    (gathered : c.gather ids = .ok cells) :
    cells.map Prod.fst = ids ∧ ∀ entry ∈ cells, c.cell? entry.1 = some entry.2 := by
  induction ids generalizing cells with
  | nil =>
    cases gathered
    simp
  | cons id rest ih =>
    rw [gather_cons] at gathered
    cases needed : c.need id with
    | error fault => simp [needed, Except.bind] at gathered
    | ok cell =>
      cases others : c.gather rest with
      | error fault => simp [needed, others, Except.bind, Except.map] at gathered
      | ok tail =>
        simp only [needed, others, Except.bind, Except.map, Except.ok.injEq] at gathered
        subst gathered
        obtain ⟨names, held⟩ := ih others
        constructor
        · simp [names]
        · intro entry member
          rcases List.mem_cons.mp member with rfl | member
          · exact need_ok_iff.mp needed
          · exact held entry member

theorem gather_isOk (c : Controller) (ids : List IntersectionId) :
    (∃ cells, c.gather ids = .ok cells) ↔ ∀ id ∈ ids, (c.cell? id).isSome := by
  induction ids with
  | nil => simp [gather, pure, Except.pure]
  | cons id rest ih =>
    rw [gather_cons]
    simp only [List.mem_cons, forall_eq_or_imp, ← ih, need]
    cases c.cell? id with
    | none => simp [Except.bind]
    | some cell =>
      cases c.gather rest <;> simp [Except.bind, Except.map]

end Controller

end Signalgrid
