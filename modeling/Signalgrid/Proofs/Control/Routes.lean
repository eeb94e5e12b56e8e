import Signalgrid.Proofs.Control.Sweeps

set_option autoImplicit false

namespace Signalgrid

namespace Settings

def named (s : Settings) : Route → List IntersectionId
  | .intersections names => names
  | .row label => s.columns.map (intersectionName label)
  | .column number => s.rows.map fun row => intersectionName row number

def Leads (s : Settings) : Route → Prop
  | .intersections names => names ≠ [] ∧ ∀ name ∈ names, name ∈ s.intersections
  | .row label => label ∈ s.rows ∧ s.columns ≠ []
  | .column number => number ∈ s.columns ∧ s.rows ≠ []

theorem Leads.named_ne_nil {s : Settings} {route : Route} (leads : s.Leads route) :
    s.named route ≠ [] := by
  cases route with
  | intersections names => exact leads.1
  | row label => simpa [named] using leads.2
  | column number => simpa [named] using leads.2

end Settings

namespace Grid

structure Firsts (named ids : List IntersectionId) : Prop where
  once : ids.Nodup
  same : ∀ id, id ∈ ids ↔ id ∈ named
  order : ids.Pairwise fun a b => named.idxOf a < named.idxOf b

theorem distinct_order (seen ids : List IntersectionId) :
    (distinct seen ids).Pairwise fun a b => ids.idxOf a < ids.idxOf b := by
  induction ids generalizing seen with
  | nil => exact .nil
  | cons id rest ih =>
    have behind {seen' : List IntersectionId} (met : id ∈ seen') {other : IntersectionId}
        (member : other ∈ distinct seen' rest) :
        (id :: rest).idxOf other = rest.idxOf other + 1 := by
      apply List.idxOf_cons_ne
      rintro rfl
      exact ((mem_distinct _ seen' rest).mp member).2 met
    have later {seen' : List IntersectionId} (met : id ∈ seen') :
        (distinct seen' rest).Pairwise fun a b => (id :: rest).idxOf a < (id :: rest).idxOf b := by
      refine (ih seen').imp_of_mem fun first second earlier => ?_
      rw [behind met first, behind met second]
      exact Nat.succ_lt_succ earlier
    rw [distinct]
    split
    next met => exact later met
    next =>
      refine List.pairwise_cons.mpr ⟨fun other member => ?_, later List.mem_cons_self⟩
      rw [behind List.mem_cons_self member, List.idxOf_cons_self]
      exact Nat.succ_pos _

theorem distinct_firsts (ids : List IntersectionId) : Firsts ids (distinct [] ids) where
  once := distinct_nodup [] ids
  same id := by simp [mem_distinct]
  order := distinct_order [] ids

theorem expand_members {g : Grid} {route : Route} {ids : List IntersectionId} :
    g.expand route = .ok ids ↔ ∃ all, g.members route = .ok all ∧ all ≠ [] ∧ ids = distinct [] all := by
  unfold expand
  cases g.members route with
  | error fault => exact iff_of_false nofun (by simp)
  | ok all =>
    cases all with
    | nil => exact iff_of_false nofun (by simp)
    | cons => simp [bind, Except.bind, eq_comm]

theorem expand_ok_iff {s : Settings} {route : Route} {ids : List IntersectionId} :
    (ofSettings s).expand route = .ok ids ↔ s.Leads route ∧ ids = distinct [] (s.named route) := by
  rw [expand_members]
  cases route with
  | intersections names =>
    simp only [members, mapM_resolve_ok_iff]
    constructor
    · rintro ⟨_, ⟨rfl, known⟩, some, same⟩
      exact ⟨⟨some, known⟩, same⟩
    · rintro ⟨⟨some, known⟩, same⟩
      exact ⟨names, ⟨rfl, known⟩, some, same⟩
  | row label =>
    simp only [members]
    split
    next known => simp [Settings.Leads, Settings.named, show label ∈ s.rows from known, ofSettings]
    next unknown => simp [Settings.Leads, show label ∉ s.rows from unknown]
  | column number =>
    simp only [members]
    split
    next known => simp [Settings.Leads, Settings.named, show number ∈ s.columns from known, ofSettings]
    next unknown => simp [Settings.Leads, show number ∉ s.columns from unknown]

end Grid

namespace Cell

variable (policy : Policy) (id : IntersectionId) (reason : String) (now : Instant) (c : Cell)

theorem wave_records : ∃ (changes : List Transition) (row : DecisionRow),
    (c.wave policy id reason now).records = changes.map .change ++ [.decision row] ∧
      row.intersection = id ∧ row.action = .greenWave ∧ row.current = .greenWave := by
  simp only [wave, Traffic.enterWave, Pass.settle, Pass.obey, Pass.command, Pass.tick, Pass.decide,
    Pass.note_records, List.nil_append, ← List.map_append]
  exact ⟨_, _, rfl, rfl, rfl, rfl⟩

end Cell

def DecidesWaves (ids : List IntersectionId) (rs : List Record) : Prop :=
  (rs.filterMap Record.decision?).map (fun row => (row.intersection, row.action, row.current)) =
      ids.map (·, .greenWave, .greenWave) ∧
    rs.filterMap Record.action? = []

theorem DecidesWaves.append {first second : List IntersectionId} {rs more : List Record}
    (early : DecidesWaves first rs) (late : DecidesWaves second more) :
    DecidesWaves (first ++ second) (rs ++ more) := by
  simp only [DecidesWaves, List.filterMap_append, List.map_append] at *
  exact ⟨by rw [early.1, late.1], by rw [early.2, late.2]; rfl⟩

theorem Cell.wave_decides (policy : Policy) (id : IntersectionId) (reason : String) (now : Instant)
    (c : Cell) : DecidesWaves [id] (c.wave policy id reason now).records := by
  obtain ⟨changes, row, records, rfl, action, current⟩ := c.wave_records policy id reason now
  rw [records]
  constructor
  · simp [List.filterMap_append, List.filterMap_map, Function.comp_def, Record.decision?, action, current]
  · simp [List.filterMap_append, List.filterMap_map, Function.comp_def, Record.action?]

namespace Controller

theorem waveCells_decides (reason : String) (now : Instant) (cells : List (IntersectionId × Cell))
    (c : Controller) {e : Effects} {ids : List IntersectionId} (decides : DecidesWaves ids e.records) :
    DecidesWaves (ids ++ cells.map Prod.fst) (waveCells reason now cells (c, e)).2.records := by
  induction cells generalizing c e ids with
  | nil => simpa [waveCells] using decides
  | cons entry rest ih =>
    have waved := decides.append (entry.2.wave_decides c.policy entry.1 reason now)
    have onward := @ih (c.setCell entry.1 (entry.2.wave c.policy entry.1 reason now).cell)
      (e.append (.ofPass (entry.2.wave c.policy entry.1 reason now))) _ waved
    rwa [List.append_assoc] at onward

end Controller

namespace ControlRoom

structure WavesOver (s s' : ControlRoom) (now : Instant) (route : Route) (reason requestedBy : String)
    (outcome : WaveOutcome) : Prop where
  listed : ∀ id ∈ outcome.affected, ∃ cell, s'.controller.cell? id = some cell ∧
    cell.traffic.OnWave outcome.expiresAt ∧ cell.signal.Prioritized outcome.expiresAt
  others : ∀ id, id ∉ outcome.affected → s'.controller.cell? id = s.controller.cell? id
  -- What the replica is offered: one decision for each, and the override that was asked for.
  recorded : ∃ rs, DecidesWaves outcome.affected rs ∧
    let all := rs ++ [.action ⟨.greenWave, route.describe, reason, requestedBy, outcome.affected, now⟩]
    s'.archive.replica = s.archive.replica.offer all ∧
      ∀ old, s.archive.replica.Holds old → s.archive.replica.Accepts all → s'.archive.replica.Holds (old ++ all)

theorem wave_over {s s' : ControlRoom} {now : Instant} {route : Route} {reason requestedBy : String}
    {outcome : WaveOutcome} (waved : s.wave now route reason requestedBy = .ok (.ok outcome, s')) :
    s.WavesOver s' now route reason requestedBy outcome where
  listed id affected := wave_starts waved affected
  others id apart := by
    obtain ⟨attempted, expanded, _, all⟩ := wave_ok waved
    have spared : s.acts now id (.wave route reason requestedBy) = [] := by
      rw [acts, visits_done (by rw [attempted]; rfl), Controller.visits_wave _ now expanded, if_pos all,
        actsOn_map, List.count_eq_zero_of_not_mem apart]
      rfl
    rw [← wave_performed waved, perform_cell?, spared]
    exact Option.map_id'
  recorded := by
    unfold wave at waved
    rcases s.controller.wave_cases now route reason requestedBy with
      ⟨_, fault, turned⟩ | ⟨ids, cells, e, _, gathered, called, records⟩
    · rw [turned] at waved
      cases waved
    · rw [called] at waved
      cases guardTick_ok waved
      have decides := @Controller.waveCells_decides reason now cells s.controller {} [] ⟨rfl, rfl⟩
      rw [List.nil_append, (Controller.gather_ok gathered).1] at decides
      have offered := (s.count fun k => { k with greenWaves := k.greenWaves + 1 }).archive.absorb_replica e
      rw [records] at offered
      refine ⟨_, decides, offered, fun old holds accepts => ?_⟩
      rw [install, offered]
      exact holds.offer accepts

/-- A green wave goes over exactly its route, and over each intersection of it once. -/
theorem wave_covers_route (settings : Settings) :
    (∀ route, ((∃ ids, (Grid.ofSettings settings).expand route = .ok ids) ↔ settings.Leads route) ∧
      ∀ ids, (Grid.ofSettings settings).expand route = .ok ids →
        ids ≠ [] ∧ (∀ id ∈ ids, id ∈ settings.intersections) ∧ Grid.Firsts (settings.named route) ids) ∧
      ∀ replica primary start room, start? settings replica primary start = some room →
        ∀ events now route reason requestedBy,
          let s := room.live events
          (settings.Leads route → now.isFinalLeap = false →
            ∃ outcome s', s.wave now route reason requestedBy = .ok (.ok outcome, s')) ∧
            ∀ outcome s', s.wave now route reason requestedBy = .ok (.ok outcome, s') →
              (Grid.ofSettings settings).expand route = .ok outcome.affected ∧
                s.WavesOver s' now route reason requestedBy outcome := by
  constructor
  · intro route
    constructor
    · constructor
      · rintro ⟨ids, expanded⟩
        exact (Grid.expand_ok_iff.mp expanded).1
      · exact fun leads => ⟨_, Grid.expand_ok_iff.mpr ⟨leads, rfl⟩⟩
    · intro ids expanded
      obtain ⟨leads, rfl⟩ := Grid.expand_ok_iff.mp expanded
      have firsts := Grid.distinct_firsts (settings.named route)
      refine ⟨fun none => leads.named_ne_nil ?_, Grid.expand_listed expanded, firsts⟩
      refine List.eq_nil_iff_forall_not_mem.mpr fun id named => ?_
      simpa [none] using (firsts.same id).mpr named
  · intro replica primary start room ready events now route reason requestedBy s
    have complete : s.controller.Complete settings := live_complete (start?_complete ready) events
    constructor
    · intro leads inside
      have expanded := Grid.expand_ok_iff.mpr ⟨leads, rfl⟩
      have present (id : IntersectionId) (listed : id ∈ Grid.distinct [] (settings.named route)) :=
        complete.present id (complete.grid ▸ Grid.expand_listed expanded id listed)
      exact ⟨_, _, wave_completes (complete.grid ▸ expanded) present inside reason requestedBy⟩
    · intro outcome s' waved
      exact ⟨complete.grid ▸ (wave_ok waved).2.1, wave_over waved⟩

theorem wave_covers_route_repeated :
    let settings : Settings := { rows := ["A"], columns := [1, 2, 3] }
    let route : Route := .intersections ["INT-A3", "INT-A1", "INT-A3"]
    ∃ room outcome s',
      start? settings (.log { name := "replica" }) (.log { name := "primary" }) .epoch = some room ∧
        settings.Leads route ∧ room.wave .epoch route "ambulance" "operator" = .ok (.ok outcome, s') ∧
        outcome.affected = ["INT-A3", "INT-A1"] ∧
        room.WavesOver s' .epoch route "ambulance" "operator" outcome ∧
        (s'.archive.replica.contents.filterMap Record.decision?).map
            (fun row => (row.intersection, row.action, row.current)) =
          [("INT-A3", .greenWave, .greenWave), ("INT-A1", .greenWave, .greenWave)] ∧
        s'.archive.replica.contents.filterMap Record.action? =
          [⟨.greenWave, route.describe, "ambulance", "operator", ["INT-A3", "INT-A1"], .epoch⟩] ∧
        s'.controller.cell? "INT-A2" = room.controller.cell? "INT-A2" := by
  intro settings route
  have ready := @start?_onLogs settings (by decide) .epoch
  have leads : settings.Leads route := by
    constructor <;> decide
  obtain ⟨granted, covered⟩ :=
    (wave_covers_route settings).2 _ _ _ _ ready [] .epoch route "ambulance" "operator"
  obtain ⟨outcome, s', waved⟩ := granted leads (by decide)
  obtain ⟨expanded, covers⟩ := covered outcome s' waved
  have affected : (Grid.ofSettings settings).expand route = .ok ["INT-A3", "INT-A1"] :=
    Grid.expand_ok_iff.mpr ⟨leads, by decide⟩
  rw [affected, Except.ok.injEq] at expanded
  obtain ⟨rs, decides, offered, holds⟩ := covers.recorded
  have empty : ((onLogs settings .epoch).live []).archive.replica = .log { name := "replica" } := rfl
  rw [empty] at offered holds
  have ready' : (Store.log { name := "replica" }).Ready := rfl
  obtain ⟨l, log⟩ : s'.archive.replica.IsLog := by
    rw [offered]
    exact Store.offer_keeps (fun _ r log => log.insert r) ⟨_, rfl⟩ _
  have kept := (holds [] (.log _) (ready'.accepts _)).contents (by rw [log]; rfl)
  refine ⟨_, outcome, s', ready, leads, waved, expanded.symm, covers, ?_, ?_,
    covers.others "INT-A2" (by rw [← expanded]; decide)⟩
  · rw [kept, List.nil_append, List.filterMap_append, List.map_append, decides.1, ← expanded]
    rfl
  · rw [kept, List.nil_append, List.filterMap_append, decides.2, ← expanded]
    rfl

end ControlRoom

end Signalgrid
