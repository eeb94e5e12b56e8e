import Signalgrid.Proofs.Archive.Routing
import Signalgrid.Proofs.Control.Complete
import Signalgrid.Proofs.Store.Queries

set_option autoImplicit false

namespace Signalgrid

theorem Archive.ask_kept {α : Type} (a : Archive) (q : Query) (pick : Reply → Except StoreFault α) :
    (a.ask q pick).2.replica.kept = a.replica.kept ∧
      (a.ask q pick).2.primary.kept = a.primary.kept ∧ (a.ask q pick).2.queue = a.queue ∧
      (a.ask q pick).2.audit = a.audit ∧ (a.ask q pick).2.watch = a.watch ∧
      (a.ask q pick).2.counters = a.counters := by
  have replica := a.replica.query_kept q
  have primary := a.primary.query_kept q
  unfold ask
  simp only
  split
  · split
    · exact ⟨rfl, primary, rfl, rfl, rfl, rfl⟩
    · exact ⟨replica, primary, rfl, rfl, rfl, rfl⟩
  · exact ⟨replica, rfl, rfl, rfl, rfl, rfl⟩

namespace ControlRoom

structure Undisturbed (s s' : ControlRoom) : Prop where
  controller : s'.controller = s.controller
  replica : s'.archive.replica.kept = s.archive.replica.kept
  primary : s'.archive.primary.kept = s.archive.primary.kept
  queue : s'.archive.queue = s.archive.queue
  audit : s'.archive.audit = s.archive.audit
  watch : s'.archive.watch = s.archive.watch

def Counts (f : Counters → Counters) (s s' : ControlRoom) : Prop :=
  s.Undisturbed s' ∧ s'.archive.counters = f s.archive.counters

section

variable {f g : Counters → Counters} {s s' s'' : ControlRoom}

theorem Counts.refl (s : ControlRoom) : Counts id s s := ⟨⟨rfl, rfl, rfl, rfl, rfl, rfl⟩, rfl⟩

theorem Counts.count (s : ControlRoom) (f : Counters → Counters) : Counts f s (s.count f) :=
  ⟨⟨rfl, rfl, rfl, rfl, rfl, rfl⟩, rfl⟩

theorem Counts.trans (first : Counts f s s') (second : Counts g s' s'') : Counts (g ∘ f) s s'' where
  left :=
    { controller := second.1.controller.trans first.1.controller
      replica := second.1.replica.trans first.1.replica
      primary := second.1.primary.trans first.1.primary
      queue := second.1.queue.trans first.1.queue
      audit := second.1.audit.trans first.1.audit
      watch := second.1.watch.trans first.1.watch }
  right := second.2.trans (congrArg g first.2)

theorem ask_counts {α : Type} (s : ControlRoom) (q : Query) (pick : Reply → Except StoreFault α) :
    Counts id s (s.ask q pick).2 := by
  obtain ⟨replica, primary, queue, audit, watch, counters⟩ := s.archive.ask_kept q pick
  exact ⟨⟨rfl, replica, primary, queue, audit, watch⟩, counters⟩

end

end ControlRoom

def Request.readOnly : Request → Bool
  | .status _ | .history .. | .summary | .health => true
  | .greenWave .. | .manualChange .. => false

namespace ControlRoom

def unknowns : Response → Nat
  | .ok _ => 0
  | .error e => if e.code = "UNKNOWN_INTERSECTION" then 1 else 0

def noteUnknowns (response : Response) (c : Counters) : Counters :=
  { c with unknown := c.unknown + unknowns response }

def noteAnswer (response : Response) (c : Counters) : Counters :=
  { c with
    requests := c.requests + 1
    requestFaults := c.requestFaults + if response.isOk then 0 else 1
    unknown := c.unknown + unknowns response }

theorem noteFault_unlisted {s : ControlRoom} {name : String} (unlisted : name ∉ s.controller.grid.ids) :
    s.noteFault name = s.count noteUnknown := by
  simp [noteFault, Grid.resolve, unlisted]

theorem ask_error {α : Type} {s s' : ControlRoom} {q : Query} {pick : Reply → Except StoreFault α}
    {e : RequestFault} (failed : s.ask q pick = (.error e, s')) : ∃ text, e = .noStore text := by
  have answered := congrArg Prod.fst failed
  simp only [ask] at answered
  cases asked : (s.archive.ask q pick).1 with
  | ok found =>
    rw [asked] at answered
    cases answered
  | error fault =>
    rw [asked] at answered
    cases answered
    exact ⟨_, rfl⟩

theorem askHistory_counts {s s' : ControlRoom} {start stop : Instant} {id : Option IntersectionId}
    {response : Response} (done : s.askHistory start stop id = (response, s')) :
    Counts (noteUnknowns response) s s' := by
  have asked := s.ask_counts (.history start stop id) Reply.history?
  unfold askHistory at done
  split at done
  next answered =>
    cases done
    rw [answered] at asked
    exact asked
  next answered =>
    cases done
    obtain ⟨text, rfl⟩ := ask_error answered
    rw [answered] at asked
    exact asked

theorem history_counts {s s' : ControlRoom} {start stop : Instant} {intersection : Option String}
    {response : Response} (done : s.history start stop intersection = (response, s')) :
    Counts (noteUnknowns response) s s' := by
  unfold history at done
  split at done
  · cases done
    exact Counts.refl s
  · split at done
    next => exact askHistory_counts done
    next name =>
      split at done
      next => exact askHistory_counts done
      next fault turned =>
        cases done
        obtain ⟨rfl, unlisted⟩ := Controller.resolve_error turned
        rw [noteFault_unlisted unlisted]
        exact Counts.count s _

theorem summary_counts {s s' : ControlRoom} {response : Response} (done : s.summary = (response, s')) :
    Counts (noteUnknowns response) s s' := by
  have asked := s.ask_counts .totals Reply.totals?
  unfold summary at done
  split at done
  next answered =>
    cases done
    rw [answered] at asked
    exact asked
  next answered =>
    cases done
    rw [answered] at asked
    exact asked.trans (ask_counts _ _ _)

section

variable {settings : Settings} {s s' : ControlRoom} (complete : s.controller.Complete settings)
  {now : Instant}

include complete

theorem view_counts {name : String} {result : Except ControlFault View}
    (done : s.view now name = .ok (result, s')) :
    (∃ v, result = .ok v ∧ s' = s) ∨
      result = .error (.unknownIntersection name) ∧ s' = s.count noteUnknown := by
  unfold view at done
  split at done
  next v viewed =>
    split at done
    · cases done
      exact .inl ⟨v, rfl, rfl⟩
    · cases done
  next fault turned =>
    cases done
    obtain ⟨rfl, unlisted⟩ := complete.view_error now turned
    exact .inr ⟨rfl, noteFault_unlisted unlisted⟩

theorem status_counts {name : String} {response : Response}
    (done : s.status now name = .ok (response, s')) : Counts (noteUnknowns response) s s' := by
  unfold status at done
  split at done
  next => cases done
  next fault s₁ viewed =>
    cases done
    rcases view_counts complete viewed with ⟨_, ok, _⟩ | ⟨turned, rfl⟩
    · cases ok
    · cases turned
      exact Counts.count s _
  next view s₁ viewed =>
    rcases view_counts complete viewed with ⟨_, _, rfl⟩ | ⟨turned, _⟩
    · have asked := s₁.ask_counts (.events view.intersection s₁.recent) Reply.events?
      split at done
      next answered =>
        cases done
        rw [answered] at asked
        exact asked
      next s₂ source events answered =>
        cases done
        rw [answered] at asked
        exact asked.trans (ask_counts _ _ _)
    · cases turned

omit complete in
theorem status_stopped {name : String} {left : ControlRoom} (stopped : s.status now name = .error left) :
    left = s := by
  unfold status at stopped
  split at stopped
  next viewed =>
    cases stopped
    unfold view at viewed
    split at viewed
    · split at viewed
      · cases viewed
      · cases viewed
        rfl
    · cases viewed
  next => cases stopped
  next =>
    split at stopped
    · cases stopped
    · cases stopped

theorem wave_counts {route : Route} {reason requestedBy : String} {fault : ControlFault}
    (done : s.wave now route reason requestedBy = .ok (.error fault, s')) :
    s' = s ∧ ∃ e, fault = .badRoute e := by
  unfold wave at done
  split at done
  next => cases guardTick_ok done
  next turned =>
    cases done
    exact ⟨rfl, complete.wave_error now turned⟩

theorem hold_counts {name requestedBy : String} {color : Color} {fault : ControlFault}
    (done : s.hold now name color requestedBy = .ok (.error fault, s')) :
    s' = s.count noteUnknown ∧ fault = .unknownIntersection name := by
  unfold hold at done
  split at done
  next => cases guardTick_ok done
  next turned =>
    cases done
    obtain ⟨rfl, unlisted⟩ := complete.hold_error now turned
    exact ⟨noteFault_unlisted unlisted, rfl⟩

theorem dispatch_counts {r : Request} {response : Response}
    (done : s.dispatch now r = .ok (response, s'))
    (harmless : r.readOnly = true ∨ ∃ e, response = .error e) :
    Counts (noteUnknowns response) s s' := by
  cases r with
  | status name => exact status_counts complete done
  | history start stop intersection => exact history_counts (Except.ok.inj done)
  | summary => exact summary_counts (Except.ok.inj done)
  | health =>
    cases done
    exact Counts.refl s
  | greenWave route reason requestedBy =>
    obtain ⟨e, rfl⟩ := harmless.resolve_left (by simp [Request.readOnly])
    obtain ⟨⟨outcome, s₁⟩, waved, answered⟩ := map_ok done
    cases outcome with
    | ok outcome => cases answered
    | error fault =>
      cases answered
      obtain ⟨rfl, e, rfl⟩ := wave_counts complete waved
      exact Counts.refl _
  | manualChange name color requestedBy =>
    obtain ⟨e, rfl⟩ := harmless.resolve_left (by simp [Request.readOnly])
    obtain ⟨⟨outcome, s₁⟩, held, answered⟩ := map_ok done
    cases outcome with
    | ok outcome => cases answered
    | error fault =>
      cases answered
      obtain ⟨rfl, rfl⟩ := hold_counts complete held
      exact Counts.count s _

theorem handle_counts {r : Request} {response : Response}
    (done : s.handle now r = .ok (response, s'))
    (harmless : r.readOnly = true ∨ ∃ e, response = .error e) :
    Counts (noteAnswer response) s s' := by
  obtain ⟨⟨answer, s₁⟩, dispatched, same⟩ := map_ok done
  cases same
  have asked : Counts _ s s.noteRequest := Counts.count s _
  have counted := asked.trans (@dispatch_counts _ s.noteRequest _ complete _ _ _ dispatched harmless)
  cases response with
  | ok a => exact counted
  | error e => exact counted.trans (Counts.count s₁ _)

theorem handleLine_counts {line : List Char} {response : Response}
    (done : s.handleLine now line = .ok (response, s'))
    (harmless : (∃ e, response = .error e) ∨
      ∃ r, Request.decode.ofText line = .ok r ∧ r.readOnly = true) :
    Counts (noteAnswer response) s s' := by
  unfold handleLine at done
  split at done
  next r decoded =>
    refine handle_counts complete done ?_
    rcases harmless with failed | ⟨r', decoded', readOnly⟩
    · exact .inr failed
    · rw [decoded] at decoded'
      cases decoded'
      exact .inl readOnly
  next e decoded =>
    cases done
    exact (Counts.count s _).trans (Counts.count s.noteRequest _)

omit complete in
theorem ingestLine_counts {line : List Char} {fault : IngestFault}
    (done : s.ingestLine now line = .ok (.error fault, s')) :
    (∃ f, fault = .line f ∧ Counts (noteLineFault f) s s') ∨
      (∃ name, fault = .unknownIntersection name) ∧ Counts id s s' := by
  unfold ingestLine at done
  split at done
  next r parsed =>
    unfold ingest at done
    split at done
    next => cases guardTick_ok done
    next =>
      cases done
      exact .inr ⟨⟨_, rfl⟩, Counts.refl s⟩
  next f parsed =>
    cases done
    exact .inl ⟨f, rfl, Counts.count s _⟩
  next => cases done

end

inductive Event where
  | operation (op : Operation)
  | request (line : List Char)
  | relay (raw : Bytes)
  | archive (x : Archive.Step)
  | drain
  | stores (replica primary : Store)

def befall (s : ControlRoom) (now : Instant) : Event → ControlRoom
  | .operation op => s.perform now op
  | .request line => remains ((s.handleLine now line).map Prod.snd)
  | .relay raw => remains (s.relayLine now raw)
  | .archive x => { s with archive := s.archive.step x }
  | .drain => s.drain
  | .stores replica primary =>
      { s with archive := { s.archive with replica := replica, primary := primary } }

def live (s : ControlRoom) (events : List (Instant × Event)) : ControlRoom :=
  events.foldl (fun s event => s.befall event.1 event.2) s

def Moves (now : Instant) (c d : Controller) : Prop := ∃ visits, d = (c.goOver now visits).1

theorem Moves.refl (now : Instant) (c : Controller) : Moves now c c := ⟨[], rfl⟩

theorem Moves.paired {now : Instant} {c d : Controller} (moves : Moves now c d) : d.Paired c := by
  obtain ⟨visits, rfl⟩ := moves
  exact Controller.goOver_paired now visits

theorem perform_moves (s : ControlRoom) (now : Instant) (op : Operation) :
    Moves now s.controller (s.perform now op).controller := ⟨s.visits now op, s.perform_controller now op⟩

theorem remains_map {α β : Type} (act : Act α) {f : α × ControlRoom → β × ControlRoom}
    (kept : ∀ x, (f x).2.controller = x.2.controller) :
    (remains ((act.map f).map Prod.snd)).controller = (remains (act.map Prod.snd)).controller := by
  cases act with
  | error s => rfl
  | ok x => exact kept x

theorem relayLine_moves (s : ControlRoom) (now : Instant) (raw : Bytes) :
    Moves now s.controller (remains (s.relayLine now raw)).controller := by
  unfold relayLine
  split
  · exact .refl now _
  · split
    · exact .refl now _
    · exact s.perform_moves now (.line _)

section

variable {settings : Settings} {s : ControlRoom} (complete : s.controller.Complete settings)
  {now : Instant}

include complete

theorem dispatch_moves (r : Request) :
    Moves now s.controller (remains ((s.dispatch now r).map Prod.snd)).controller := by
  cases r with
  | status name =>
    cases done : s.status now name with
    | ok answer =>
      have same := (status_counts complete done).1.controller
      simpa only [dispatch, done, Except.map, remains, same] using Moves.refl now s.controller
    | error left =>
      have same : left = s := status_stopped done
      simpa only [dispatch, done, Except.map, remains, same] using Moves.refl now s.controller
  | history start stop intersection =>
    have same : (s.history start stop intersection).2.controller = s.controller :=
      (history_counts rfl).1.controller
    simpa only [dispatch, Except.map, remains, same] using Moves.refl now s.controller
  | summary =>
    have same : s.summary.2.controller = s.controller := (summary_counts rfl).1.controller
    simpa only [dispatch, Except.map, remains, same] using Moves.refl now s.controller
  | health => exact .refl now _
  | greenWave route reason requestedBy =>
    rw [dispatch, remains_map]
    · exact s.perform_moves now (.wave route (reason.getD defaultReason) (requestedBy.getD defaultRequester))
    · exact fun _ => rfl
  | manualChange name color requestedBy =>
    rw [dispatch, remains_map]
    · exact s.perform_moves now (.hold name color (requestedBy.getD defaultRequester))
    · exact fun _ => rfl

theorem handleLine_moves (line : List Char) :
    Moves now s.controller (remains ((s.handleLine now line).map Prod.snd)).controller := by
  unfold handleLine
  split
  next r decoded =>
    rw [handle, remains_map]
    · exact @dispatch_moves _ s.noteRequest complete now r
    · rintro ⟨response, after⟩
      cases response <;> rfl
  next => exact .refl now _

theorem befall_moves (event : Event) : Moves now s.controller (s.befall now event).controller := by
  cases event with
  | operation op => exact s.perform_moves now op
  | request line => exact handleLine_moves complete line
  | relay raw => exact s.relayLine_moves now raw
  | archive x => exact .refl now _
  | drain => exact .refl now _
  | stores replica primary => exact .refl now _

theorem befall_complete (event : Event) : (s.befall now event).controller.Complete settings :=
  complete.of_paired (befall_moves complete event).paired

theorem live_complete (events : List (Instant × Event)) :
    (s.live events).controller.Complete settings := by
  induction events generalizing s with
  | nil => exact complete
  | cons event rest ih => exact ih (befall_complete complete event.2)

end

theorem start?_complete {settings : Settings} {replica primary : Store} {start : Instant}
    {s : ControlRoom} (ready : start? settings replica primary start = some s) :
    s.controller.Complete settings := by
  simp only [start?, Option.map_eq_some_iff] at ready
  obtain ⟨archive, _, rfl⟩ := ready
  refine ⟨rfl, fun id listed => ?_⟩
  have configured : id ∈ settings.intersections := listed
  simp [Controller.cell?_ofSettings, configured]

/-- What is turned away, or only reads, leaves everything but the counters as it was. -/
theorem refused_undisturbed {settings : Settings} {replica primary : Store} {start : Instant}
    {room : ControlRoom} (ready : start? settings replica primary start = some room)
    (events : List (Instant × Event)) (now : Instant) (line : List Char) (s' : ControlRoom) :
    let s := room.live events
    let c := s.archive.counters
    (∀ fault, s.ingestLine now line = .ok (.error fault, s') →
      s.Undisturbed s' ∧
        match fault with
        | .line _ =>
            s'.archive.counters = { c with malformed := c.malformed + 1 } ∨
              s'.archive.counters = { c with unknown := c.unknown + 1 }
        | .unknownIntersection _ => s'.archive.counters = c) ∧
      ∀ response, s.handleLine now line = .ok (response, s') →
        ((∃ e, response = .error e) ∨ ∃ r, Request.decode.ofText line = .ok r ∧ r.readOnly = true) →
        s.Undisturbed s' ∧
          s'.archive.counters =
            { c with
              requests := c.requests + 1
              requestFaults := c.requestFaults + if response.isOk then 0 else 1
              unknown := c.unknown + unknowns response } := by
  intro s c
  have complete : s.controller.Complete settings := live_complete (start?_complete ready) events
  constructor
  · intro fault done
    rcases ingestLine_counts done with ⟨f, rfl, undisturbed, counters⟩ | ⟨⟨name, rfl⟩, undisturbed, counters⟩
    · refine ⟨undisturbed, ?_⟩
      rw [counters]
      cases f with
      | unknownIntersection name => exact .inr rfl
      | _ => exact .inl rfl
    · exact ⟨undisturbed, counters⟩
  · intro response done harmless
    exact handleLine_counts complete done harmless

theorem refused_undisturbed_after_probe :
    let settings : Settings := { rows := ["A"], columns := [1] }
    let events : List (Instant × Event) := [(.epoch, .archive (.probe false .epoch))]
    let line := "\x7b\"command\":\"INTERSECTION_STATUS\",\"intersection\":\"B\"\x7d".toList
    ∃ room fault s₁ s₂,
      start? settings (.log { name := "replica" }) (.log { name := "primary" }) .epoch = some room ∧
      (room.live events).ingestLine .epoch "camara".toList = .ok (.error (.line fault), s₁) ∧
      (room.live events).Undisturbed s₁ ∧
      (room.live events).handleLine .epoch line = .ok (.error (.unknownIntersection "B"), s₂) ∧
      s₂.archive.counters = { (room.live events).archive.counters with
        requests := 1, requestFaults := 1, unknown := 1 } := by
  intro settings events line
  have decoded : (Request.decode.ofText line).toOption = some (.status "B") := by decide +kernel
  have answered : ∀ s : ControlRoom,
      s.handleLine .epoch line = s.handle .epoch (.status "B") := by
    intro s
    unfold handleLine
    split
    next r found =>
      rw [found] at decoded
      cases decoded
      rfl
    next e failed =>
      rw [failed] at decoded
      cases decoded
  let room : ControlRoom :=
    { controller := .ofSettings settings .epoch
      archive :=
        { replica := .log { name := "replica" }
          primary := .log { name := "primary" }
          depth := 1024
          retries := 3 }
      topics := settings.ingest.topics }
  have ready : start? settings (.log { name := "replica" }) (.log { name := "primary" }) .epoch =
      some room := rfl
  obtain ⟨s₂, handled⟩ : ∃ s₂, (room.live events).handleLine .epoch line =
      .ok (.error (.unknownIntersection "B"), s₂) := by
    rw [answered]
    exact ⟨_, rfl⟩
  refine ⟨room, .noPayload, _, s₂, ready, rfl, ?_, handled, ?_⟩
  · exact ((refused_undisturbed ready events .epoch "camara".toList _).1 _ rfl).1
  · have refused := (refused_undisturbed ready events .epoch line s₂).2
      (.error (.unknownIntersection "B")) handled (.inl ⟨_, rfl⟩)
    have before : (room.live events).archive.counters.requests = 0 ∧
        (room.live events).archive.counters.requestFaults = 0 ∧
        (room.live events).archive.counters.unknown = 0 := ⟨rfl, rfl, rfl⟩
    rw [refused.2]
    simp only [before]
    rfl

end ControlRoom

end Signalgrid
