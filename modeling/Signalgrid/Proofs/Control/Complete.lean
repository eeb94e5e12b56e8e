import Signalgrid.Proofs.Control.Isolation
import Signalgrid.Proofs.Json.Decode

set_option autoImplicit false

namespace Signalgrid

namespace Grid

theorem resolve_ok_iff {g : Grid} {name id : String} : g.resolve name = .ok id ↔ id = name ∧ name ∈ g.ids := by
  unfold resolve
  split
  next listed =>
    rw [Except.ok.injEq]
    exact ⟨fun same => ⟨same.symm, listed⟩, fun same => same.1.symm⟩
  next unlisted => exact iff_of_false nofun fun known => unlisted known.2

theorem mapM_resolve_ok_iff {g : Grid} {names : List String} {ids : List IntersectionId} :
    names.mapM g.resolve = .ok ids ↔ ids = names ∧ ∀ name ∈ names, name ∈ g.ids := by
  induction names generalizing ids with
  | nil => simp [pure, Except.pure, eq_comm]
  | cons name rest ih =>
    rw [List.mapM_cons]
    constructor
    · intro resolved
      obtain ⟨id, first, resolved⟩ := bind_ok resolved
      obtain ⟨others, more, resolved⟩ := bind_ok resolved
      cases resolved
      obtain ⟨rfl, listed⟩ := resolve_ok_iff.mp first
      obtain ⟨rfl, later⟩ := ih.mp more
      exact ⟨rfl, List.forall_mem_cons.mpr ⟨listed, later⟩⟩
    · rintro ⟨rfl, known⟩
      obtain ⟨listed, later⟩ := List.forall_mem_cons.mp known
      rw [resolve_ok_iff.mpr ⟨rfl, listed⟩, ih.mpr ⟨rfl, later⟩]
      rfl

theorem members_listed {s : Settings} {route : Route} {ids : List IntersectionId}
    (named : (ofSettings s).members route = .ok ids) : ∀ id ∈ ids, id ∈ (ofSettings s).ids := by
  intro id listed
  cases route with
  | intersections names =>
    obtain ⟨rfl, known⟩ := mapM_resolve_ok_iff.mp named
    exact known id listed
  | row label =>
    simp only [members] at named
    split at named
    next known =>
      cases named
      obtain ⟨column, among, rfl⟩ := List.mem_map.mp listed
      exact List.mem_flatMap.mpr ⟨label, known, List.mem_map.mpr ⟨column, among, rfl⟩⟩
    next => cases named
  | column number =>
    simp only [members] at named
    split at named
    next known =>
      cases named
      obtain ⟨row, among, rfl⟩ := List.mem_map.mp listed
      exact List.mem_flatMap.mpr ⟨row, among, List.mem_map.mpr ⟨number, known, rfl⟩⟩
    next => cases named

theorem expand_listed {s : Settings} {route : Route} {ids : List IntersectionId}
    (expanded : (ofSettings s).expand route = .ok ids) : ∀ id ∈ ids, id ∈ (ofSettings s).ids := by
  obtain ⟨all, named, expanded⟩ := bind_ok expanded
  split at expanded
  · cases expanded
  · cases expanded
    intro id listed
    exact members_listed named id ((mem_distinct id [] all).mp listed).1

end Grid

namespace Controller

structure Complete (settings : Settings) (c : Controller) : Prop where
  grid : c.grid = .ofSettings settings
  present : ∀ id ∈ c.grid.ids, (c.cell? id).isSome

theorem resolve_error {c : Controller} {name : String} {fault : ControlFault}
    (turned : c.resolve name = .error fault) :
    fault = .unknownIntersection name ∧ name ∉ c.grid.ids := by
  by_cases listed : name ∈ c.grid.ids
  · rw [resolve_ok_iff.mpr ⟨rfl, listed⟩] at turned
    cases turned
  · simp only [resolve, Grid.resolve, if_neg listed] at turned
    cases turned
    exact ⟨rfl, listed⟩

theorem Complete.of_paired {settings : Settings} {c d : Controller} (complete : c.Complete settings)
    (paired : d.Paired c) : d.Complete settings where
  grid := paired.grid.trans complete.grid
  present id listed := by
    rw [paired.present]
    exact complete.present id (paired.grid ▸ listed)

section

variable {settings : Settings} {c : Controller} (complete : c.Complete settings) (now : Instant)

include complete

theorem Complete.view_error {name : String} {fault : ControlFault}
    (turned : c.view now name = .error fault) :
    fault = .unknownIntersection name ∧ name ∉ c.grid.ids := by
  unfold view at turned
  cases resolved : c.resolve name with
  | error e =>
    rw [resolved] at turned
    cases turned
    exact resolve_error resolved
  | ok id =>
    obtain ⟨rfl, listed⟩ := resolve_ok_iff.mp resolved
    obtain ⟨cell, found⟩ := Option.isSome_iff_exists.mp (complete.present name listed)
    simp only [resolved, bind, Except.bind, need_ok_iff.mpr found] at turned
    cases turned

theorem Complete.hold_error {name requestedBy : String} {color : Color} {fault : ControlFault}
    (turned : c.hold now name color requestedBy = .error fault) :
    fault = .unknownIntersection name ∧ name ∉ c.grid.ids := by
  unfold hold at turned
  cases resolved : c.resolve name with
  | error e =>
    rw [resolved] at turned
    cases turned
    exact resolve_error resolved
  | ok id =>
    obtain ⟨rfl, listed⟩ := resolve_ok_iff.mp resolved
    obtain ⟨cell, found⟩ := Option.isSome_iff_exists.mp (complete.present name listed)
    simp only [resolved, bind, Except.bind, need_ok_iff.mpr found] at turned
    cases turned

theorem Complete.wave_error {route : Route} {reason requestedBy : String} {fault : ControlFault}
    (turned : c.wave now route reason requestedBy = .error fault) : ∃ e, fault = .badRoute e := by
  rcases c.wave_cases now route reason requestedBy with ⟨missing, _⟩ | ⟨_, _, _, _, _, waved, _⟩
  · cases expanded : c.grid.expand route with
    | error e =>
      simp only [wave, expanded] at turned
      cases turned
      exact ⟨e, rfl⟩
    | ok ids =>
      have all : ∀ id ∈ ids, (c.cell? id).isSome := fun id on =>
        complete.present id (complete.grid ▸ Grid.expand_listed (complete.grid ▸ expanded) id on)
      exact absurd all (missing ids expanded)
  · rw [waved] at turned
    cases turned

end

end Controller

end Signalgrid
