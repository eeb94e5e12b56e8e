import Signalgrid.Proofs.Control.Isolation
import Signalgrid.Proofs.Control.Plans
import Signalgrid.Proofs.Store.Contents

set_option autoImplicit false

namespace Signalgrid

open Record

namespace Archive

theorem alerts_eq (alerts : List Alert) (a : Archive) :
    alerts.foldl alert a = { a with audit := alerts.foldl Audit.push a.audit } := by
  induction alerts generalizing a with
  | nil => rfl
  | cons first rest ih => exact ih (a.alert first)

theorem recordAll_replica (a : Archive) (rs : List Record) :
    (a.recordAll rs).replica = a.replica.offer rs := by
  induction rs generalizing a with
  | nil => rfl
  | cons r rest ih => exact (ih (a.record r).2).trans (by rw [(a.record_eq r).2.1]; rfl)

theorem absorb_replica (a : Archive) (e : Effects) : (a.absorb e).replica = a.replica.offer e.records := by
  rw [absorb, recordAll_replica, alerts_eq]
  rfl

end Archive

structure Cell.History (id : IntersectionId) (past : List Record) (now : Instant) (cell : Cell) : Prop where
  light : Linked Transition.before Transition.after .red (changesOf id past) cell.signal.color
  ordered : cell.signal.Ordered (changesOf id past) now
  traffic : Linked DecisionRow.previous DecisionRow.current .normal (decisionsOf id past)
    cell.traffic.kind
  decided : (decisionsOf id past).Pairwise fun a b => a.recordedAt ≤ b.recordedAt
  settled : ∀ row ∈ decisionsOf id past, row.recordedAt ≤ now

namespace Cell

variable {id : IntersectionId} {past rs : List Record} {now now' : Instant} {c d : Cell}

theorem History.start (id : IntersectionId) (now start : Instant) : (Cell.start start).History id [] now where
  light := rfl
  ordered := ⟨.nil, by simp, by simp⟩
  traffic := rfl
  decided := .nil
  settled := by simp

theorem History.later (history : c.History id past now) (forward : now ≤ now') :
    c.History id past now' where
  light := history.light
  ordered := history.ordered.later forward
  traffic := history.traffic
  decided := history.decided
  settled row member := le_trans (history.settled row member) forward

theorem History.next (history : c.History id past now) (plain : now.isLeap = false)
    (told : c.Tells id now d (of id rs)) : d.History id (past ++ rs) now := by
  have light := told.light
  have traffic := told.traffic
  have decided := told.decided
  have ordered := told.ordered plain _ history.ordered
  rw [changesOf_of] at light ordered
  rw [decisionsOf_of] at traffic decided
  have reached : ∀ row ∈ decisionsOf id rs, row.recordedAt ≤ now := by
    intro row member
    rw [decided row member]
  constructor
  case light =>
    rw [changesOf_append]
    exact history.light.append light
  case ordered =>
    rw [changesOf_append]
    exact ordered
  case traffic =>
    rw [decisionsOf_append]
    exact history.traffic.append traffic
  case decided =>
    rw [decisionsOf_append, List.pairwise_append]
    refine ⟨history.decided, ?_, ?_⟩
    · refine List.pairwise_of_forall_mem_list fun a first b second => ?_
      rw [decided a first, decided b second]
    · intro a before b after
      rw [decided b after]
      exact history.settled a before
  case settled =>
    rw [decisionsOf_append]
    exact List.forall_mem_append.mpr ⟨history.settled, reached⟩

end Cell

namespace ControlRoom

/-- Nothing where the operation does not complete. -/
def left (s : ControlRoom) (now : Instant) (op : Operation) : List Record :=
  if (s.attempt now op).isSome then (s.controller.operate now op).2.records else []

def Accepts : ControlRoom → List (Instant × Operation) → Prop
  | _, [] => True
  | s, (now, op) :: rest => s.archive.replica.Accepts (s.left now op) ∧ (s.perform now op).Accepts rest

section

variable (s : ControlRoom) (now : Instant) (op : Operation)

theorem perform_tells {now : Instant} (inside : now.isFinalLeap = false) :
    s.controller.Tells now (s.perform now op).controller (s.left now op) := by
  cases attempted : s.attempt now op with
  | none =>
    rw [s.perform_stopped_inside inside attempted, left, attempted]
    exact .refl _
  | some s' =>
    obtain ⟨f, rfl⟩ := attempt_takes attempted
    simpa [perform_done attempted, left, attempted] using s.controller.operate_tells now op

theorem perform_replica :
    (s.perform now op).archive.replica = s.archive.replica.offer (s.left now op) := by
  cases attempted : s.attempt now op with
  | none =>
    obtain ⟨n, m, stopped⟩ := perform_stopped attempted
    rw [stopped, left, attempted]
    rfl
  | some s' =>
    obtain ⟨f, rfl⟩ := attempt_takes attempted
    rw [perform_done attempted, left, attempted, install, Archive.absorb_replica]
    rfl

theorem perform_holds {old : List Record} (holds : s.archive.replica.Holds old)
    (accepts : s.archive.replica.Accepts (s.left now op)) :
    (s.perform now op).archive.replica.Holds (old ++ s.left now op) := by
  rw [perform_replica]
  exact holds.offer accepts

end

theorem run_keeps (kept : Store → Prop) (step : ∀ s r, kept s → kept (s.insert r).2)
    {s : ControlRoom} (start : kept s.archive.replica) (steps : List (Instant × Operation)) :
    kept (s.run steps).archive.replica := by
  induction steps generalizing s with
  | nil => exact start
  | cons first rest ih =>
    apply ih
    rw [perform_replica]
    exact Store.offer_keeps step start _

theorem run_ready {s : ControlRoom} (ready : s.archive.replica.Ready)
    (steps : List (Instant × Operation)) : (s.run steps).archive.replica.Ready :=
  run_keeps Store.Ready (fun _ r there => (there.insert r).2) ready steps

theorem accepts_of_ready {s : ControlRoom} (ready : s.archive.replica.Ready)
    (steps : List (Instant × Operation)) : s.Accepts steps := by
  induction steps generalizing s with
  | nil => trivial
  | cons step rest ih => exact ⟨ready.accepts _, ih (run_ready ready [step])⟩

theorem start?_fresh {settings : Settings} {replica primary : Store} {start : Instant}
    {room : ControlRoom} (ready : start? settings replica primary start = some room) :
    room.controller = .ofSettings settings start ∧ room.archive.replica = replica := by
  simp only [start?, Option.map_eq_some_iff] at ready
  obtain ⟨archive, opened, rfl⟩ := ready
  refine ⟨rfl, ?_⟩
  unfold Archive.start? at opened
  split at opened
  · cases opened
    rfl
  · cases opened

def onLogs (s : Settings) (start : Instant) : ControlRoom :=
  { controller := .ofSettings s start
    archive :=
      { replica := .log { name := "replica" }
        primary := .log { name := "primary" }
        depth := max 1 s.primary.queueDepth
        retries := s.timings.probeRetries }
    topics := s.ingest.topics }

theorem start?_onLogs {s : Settings} (bounded : s.primary.queueDepth ≤ Archive.maxDepth)
    (start : Instant) :
    start? s (.log { name := "replica" }) (.log { name := "primary" }) start =
      some (onLogs s start) := by
  simp [start?, Archive.start?, bounded, onLogs]

theorem run_history {s : ControlRoom} {old past : List Record} {since : Instant}
    {steps : List (Instant × Operation)} (plain : ∀ step ∈ steps, step.1.isLeap = false)
    (forward : (since :: steps.map Prod.fst).Pairwise (· ≤ ·)) (accepts : s.Accepts steps)
    (holds : s.archive.replica.Holds (old ++ past))
    (history : ∀ id cell, s.controller.cell? id = some cell → cell.History id past since) :
    ∃ rs last, (s.run steps).archive.replica.Holds (old ++ rs) ∧
      ∀ id cell, (s.run steps).controller.cell? id = some cell → cell.History id rs last := by
  induction steps generalizing s past since with
  | nil => exact ⟨past, since, holds, history⟩
  | cons step rest ih =>
    obtain ⟨now, op⟩ := step
    rw [List.forall_mem_cons] at plain
    obtain ⟨ahead, forward⟩ := List.pairwise_cons.mp forward
    -- What the first operation leaves joins the past, and its moment is the last one so far.
    refine @ih _ (past ++ s.left now op) now plain.2 forward accepts.2 ?_ fun id cell found => ?_
    · rw [← List.append_assoc]
      exact s.perform_holds now op holds accepts.1
    · obtain ⟨before, found, told⟩ := s.perform_tells op (Instant.isFinalLeap_of_plain plain.1) id cell found
      exact ((history id before found).later (ahead now (by simp))).next plain.1 told

/-- What the replica has recorded of an intersection replays to its cell. -/
theorem history_replays {settings : Settings} {replica primary : Store} {start : Instant}
    {room : ControlRoom} (ready : start? settings replica primary start = some room)
    {old : List Record} (holds : replica.Holds old) {steps : List (Instant × Operation)}
    (plain : ∀ step ∈ steps, step.1.isLeap = false)
    (forward : (steps.map Prod.fst).Pairwise (· ≤ ·)) (accepts : room.Accepts steps) :
    ∃ rs, (room.run steps).archive.replica.Holds (old ++ rs) ∧
      ∀ id ∈ settings.intersections,
        ∃ cell, (room.run steps).controller.cell? id = some cell ∧
          Linked Transition.before Transition.after .red (changesOf id rs) cell.signal.color ∧
          (changesOf id rs).Pairwise (fun a b => a.moment ≤ b.moment) ∧
          Linked DecisionRow.previous DecisionRow.current .normal (decisionsOf id rs)
            cell.traffic.kind ∧
          (decisionsOf id rs).Pairwise (fun a b => a.recordedAt ≤ b.recordedAt) := by
  -- Nothing is recorded yet, so the clock may have shown anything before the run.
  obtain ⟨since, forward⟩ : ∃ since, (since :: steps.map Prod.fst).Pairwise (· ≤ ·) := by
    cases steps with
    | nil => exact ⟨start, List.pairwise_singleton _ _⟩
    | cons step rest =>
      refine ⟨step.1, List.pairwise_cons.mpr ⟨fun now member => ?_, forward⟩⟩
      rcases List.mem_cons.mp member with rfl | later
      · exact le_refl _
      · exact (List.pairwise_cons.mp forward).1 now later
  obtain ⟨cells, kept⟩ := start?_fresh ready
  obtain ⟨rs, last, stored, history⟩ := @run_history room old [] since steps plain forward accepts
    (by simpa [kept] using holds) fun id cell found => by
      rw [cells, Controller.cell?_ofSettings] at found
      split at found
      · cases found
        exact .start id since start
      · cases found
  refine ⟨rs, stored, fun id listed => ?_⟩
  have present := (room.run_paired steps).present id
  rw [cells, Controller.cell?_ofSettings, if_pos listed] at present
  obtain ⟨cell, found⟩ := Option.isSome_iff_exists.mp present
  obtain ⟨light, ordered, traffic, decided, _⟩ := history id cell found
  exact ⟨cell, found, light, ordered.sorted, traffic, decided⟩

theorem history_replays_after_wave :
    let settings : Settings := { rows := ["A"], columns := [1] }
    let steps : List (Instant × Operation) :=
      [(Instant.epoch.after 1, .hold "INT-A1" .green "operator"),
        (Instant.epoch.after 5, .wave (.row "A") "ambulance" "operator"),
        (Instant.epoch.after 60, .sweep)]
    ∃ room rs cell,
      start? settings (.log { name := "replica" }) (.log { name := "primary" }) .epoch = some room ∧
        (room.run steps).archive.replica.Holds rs ∧
        (room.run steps).controller.cell? "INT-A1" = some cell ∧
        Linked Transition.before Transition.after .red (changesOf "INT-A1" rs) cell.signal.color ∧
        Linked DecisionRow.previous DecisionRow.current .normal (decisionsOf "INT-A1" rs)
          cell.traffic.kind ∧
        (changesOf "INT-A1" rs).map Transition.after = [.green, .green, .red] ∧
        (decisionsOf "INT-A1" rs).map DecisionRow.current = [.normal, .greenWave, .normal] := by
  intro settings steps
  obtain ⟨rs, holds, told⟩ := @history_replays settings
    (.log { name := "replica" }) (.log { name := "primary" }) .epoch _ (start?_onLogs (by decide) _) []
    (.log _) steps (by decide) (by decide) (@accepts_of_ready (onLogs settings .epoch) rfl steps)
  have configured : "INT-A1" ∈ settings.intersections := by decide +kernel
  obtain ⟨cell, found, light, _, traffic, _⟩ := told "INT-A1" configured
  rw [List.nil_append] at holds
  have contents := holds.contents (by decide +kernel)
  refine ⟨_, rs, cell, start?_onLogs (by decide) _, holds, found, light, traffic, ?_, ?_⟩
  · rw [← contents]
    decide +kernel
  · rw [← contents]
    decide +kernel

end ControlRoom

end Signalgrid
