import Signalgrid.Proofs.Control.History
import Signalgrid.Proofs.Control.Undisturbed
import Signalgrid.Proofs.Store.Transparency

set_option autoImplicit false

namespace Signalgrid

inductive Side where
  | primary
  | replica
deriving Repr, DecidableEq

structure Part (α : Type) where
  query : Query
  pick : Reply → Except StoreFault α

namespace Part

def events (id : IntersectionId) (limit : Nat) : Part (List Reading) := ⟨.events id limit, Reply.events?⟩

def lastChange (id : IntersectionId) : Part (Option Transition) := ⟨.lastChange id, Reply.lastChange?⟩

def history (start stop : Instant) (id : Option IntersectionId) : Part (List DecisionRow) :=
  ⟨.history start stop id, Reply.history?⟩

def totals : Part Totals := ⟨.totals, Reply.totals?⟩

def overrides : Part (List Override) := ⟨.overrides ControlRoom.recentOverrides, Reply.overrides?⟩

end Part

theorem Store.query_name (s : Store) (q : Query) : (s.query q).2.name = s.name := by
  cases s <;> rfl

namespace Archive

section

variable {α β : Type} (a : Archive) (p : Part α)

def store : Side → Store
  | .primary => a.primary
  | .replica => a.replica

def tells (side : Side) : Except StoreFault α := ((a.store side).query p.query).1.bind p.pick

def reader : Side := if a.watch.healthy && (a.tells p .primary).isOk then .primary else .replica

theorem ask_reader :
    (a.ask p.query p.pick).1 = (a.tells p (a.reader p)).map fun x => ((a.store (a.reader p)).name, x) := by
  have primary : ((a.primary.query p.query).1.bind p.pick) = a.tells p .primary := rfl
  have replica : ((a.replica.query p.query).1.bind p.pick) = a.tells p .replica := rfl
  simp only [ask, primary, replica, Store.query_name]
  cases healthy : a.watch.healthy with
  | false => simp [reader, healthy, store]
  | true =>
    cases said : a.tells p .primary with
    | ok x => simp [reader, healthy, said, store, Except.isOk, Except.toBool, Except.map]
    | error e => simp [reader, healthy, said, store, Except.isOk, Except.toBool]

variable {a p}

theorem reader_primary (read : a.reader p = .primary) :
    a.watch.healthy = true ∧ (a.tells p .primary).isOk = true := by
  unfold reader at read
  split at read
  next answers => exact Bool.and_eq_true_iff.mp answers
  next => cases read

theorem reader_error {e : StoreFault} (failed : a.tells p (a.reader p) = .error e) :
    a.reader p = .replica ∧ ∀ x, a.tells p .primary = .ok x → a.watch.healthy = false := by
  have replica : a.reader p = .replica := by
    cases read : a.reader p with
    | replica => rfl
    | primary =>
      have answers := (reader_primary read).2
      rw [read] at failed
      rw [failed] at answers
      cases answers
  refine ⟨replica, fun x said => ?_⟩
  by_contra healthy
  simp [reader, healthy, said, Except.isOk, Except.toBool] at replica

theorem reader_steady {a' : Archive} {p' : Part β} (watch : a'.watch.healthy = a.watch.healthy)
    (same : (a'.tells p' .primary).isOk = (a.tells p .primary).isOk) : a'.reader p' = a.reader p := by
  rw [reader, watch, same, ← reader]

end

end Archive

structure Sourced {α β : Type} (a a' : Archive) (p : Part α) (p' : Part β) (blank : β) (side : Side)
    (front : α) (back : β) : Prop where
  -- The named store is the one that the first read ended at, and has answered it.
  reader : a.reader p = side
  front : a.tells p side = .ok front
  -- The second part is of the store that the second read ended at, if that has answered.
  answered : ∀ x, a'.tells p' (a'.reader p') = .ok x → back = x
  unanswered : ∀ e, a'.tells p' (a'.reader p') = .error e → back = blank
  own : a'.tells p' side = .ok back ↔
    (∃ x, a'.tells p' (a'.reader p') = .ok x ∧ a'.tells p' side = .ok x) ∨
      (∃ e, a'.tells p' (a'.reader p') = .error e) ∧ side = .primary ∧ a'.watch.healthy = false ∧
        a'.tells p' .primary = .ok blank
  steady : a'.watch.healthy = a.watch.healthy →
    (∀ other, (a'.tells p' other).isOk = (a.tells p other).isOk) → a'.tells p' side = .ok back

theorem Sourced.of_reads {α β : Type} {a : Archive} (a' : Archive) {p : Part α} (p' : Part β) (blank : β)
    {front : α} (read : a.tells p (a.reader p) = .ok front) :
    Sourced a a' p p' blank (a.reader p) front ((a'.tells p' (a'.reader p')).toOption.getD blank) where
  reader := rfl
  front := read
  answered x said := by rw [said]; rfl
  unanswered e said := by rw [said]; rfl
  own := by
    cases said : a'.tells p' (a'.reader p') with
    | ok x => simp [Except.toOption]
    | error e =>
      obtain ⟨replica, failed⟩ := Archive.reader_error said
      simp only [Except.toOption, Option.getD_none, reduceCtorEq, false_and, exists_false, false_or,
        Except.error.injEq, exists_eq', true_and]
      constructor
      · intro told
        cases named : a.reader p with
        | replica =>
          rw [named, ← replica, said] at told
          cases told
        | primary =>
          rw [named] at told
          exact ⟨rfl, failed _ told, told⟩
      · rintro ⟨named, -, told⟩
        rwa [named]
  steady watch same := by
    have reader := Archive.reader_steady watch (same .primary)
    have answers := same (a.reader p)
    rw [read] at answers
    rw [reader]
    cases said : a'.tells p' (a.reader p) with
    | ok x => rfl
    | error e =>
      rw [said] at answers
      cases answers

def HistoryReply.Sourced (reply : HistoryReply) (a : Archive) (start stop : Instant)
    (id : Option IntersectionId) : Prop :=
  reply.start = start ∧ reply.stop = stop ∧ ∃ side, reply.source = (a.store side).name ∧
    a.tells (.history start stop id) side = .ok reply.rows ∧ (a.watch.failed = true → side = .replica)

namespace ControlRoom

def askTwice {α β : Type} (between : ControlRoom → ControlRoom) (s : ControlRoom) (p : Part α)
    (p' : Part β) (blank : β) : Except RequestFault (String × α × β) × ControlRoom :=
  match s.ask p.query p.pick with
  | (.error e, s) => (.error e, s)
  | (.ok (source, front), s) =>
      let (answer, s) := (between s).ask p'.query p'.pick
      (.ok (source, front, (answer.map Prod.snd).toOption.getD blank), s)

def statusAmid (between : ControlRoom → ControlRoom) (s : ControlRoom) (now : Instant) (name : String) :
    Act Response :=
  match s.view now name with
  | .error e => .error e
  | .ok (.error fault, s) => .ok (.error (.ofControl fault), s)
  | .ok (.ok view, s) =>
      match s.askTwice between (.events view.intersection s.recent) (.lastChange view.intersection) none with
      | (.error e, s) => .ok (.ok (.status { view := view, storeFault := some e.message }), s)
      | (.ok (source, events, lastChange), s) =>
          .ok (.ok (.status
            { view := view, events := events, lastChange := lastChange, source := some source }), s)

def summaryAmid (between : ControlRoom → ControlRoom) (s : ControlRoom) : Response × ControlRoom :=
  match s.askTwice between .totals .overrides [] with
  | (.error e, s) => (.ok (.summary (s.summarize none [] none (some e.message))), s)
  | (.ok (source, totals, overrides), s) =>
      (.ok (.summary (s.summarize (some totals) overrides (some source) none)), s)

theorem status_amid (s : ControlRoom) (now : Instant) (name : String) :
    s.statusAmid id now name = s.status now name := by
  unfold status statusAmid askTwice
  cases s.view now name with
  | error e => rfl
  | ok viewed =>
    obtain ⟨answer, s⟩ := viewed
    cases answer with
    | error fault => rfl
    | ok view =>
      simp only [Part.events, Part.lastChange, id]
      generalize s.ask (.events view.intersection s.recent) Reply.events? = first
      obtain ⟨answer, s⟩ := first
      cases answer with
      | error e => rfl
      | ok found =>
        simp only
        generalize s.ask (.lastChange view.intersection) Reply.lastChange? = second
        obtain ⟨answer, s⟩ := second
        cases answer <;> rfl

theorem summary_amid (s : ControlRoom) : s.summaryAmid id = s.summary := by
  unfold summary summaryAmid askTwice
  simp only [Part.totals, Part.overrides, id]
  generalize s.ask .totals Reply.totals? = first
  obtain ⟨answer, s⟩ := first
  cases answer with
  | error e => rfl
  | ok found =>
    simp only
    generalize s.ask (.overrides recentOverrides) Reply.overrides? = second
    obtain ⟨answer, s⟩ := second
    cases answer <;> rfl

section

variable {α β : Type} {s s' : ControlRoom} {p : Part α}

theorem ask_ok {source : String} {x : α} (asked : s.ask p.query p.pick = (.ok (source, x), s')) :
    source = (s.archive.store (s.archive.reader p)).name ∧
      s.archive.tells p (s.archive.reader p) = .ok x := by
  have answered := congrArg Prod.fst asked
  simp only [ask, Archive.ask_reader] at answered
  cases said : s.archive.tells p (s.archive.reader p) with
  | error e =>
    rw [said] at answered
    cases answered
  | ok y =>
    rw [said] at answered
    cases answered
    exact ⟨rfl, rfl⟩

theorem askTwice_sourced {between : ControlRoom → ControlRoom} {p' : Part β} {blank back : β}
    {source : String} {front : α} (asked : s.askTwice between p p' blank = (.ok (source, front, back), s')) :
    ∃ side, source = (s.archive.store side).name ∧
      Sourced s.archive (between (s.ask p.query p.pick).2).archive p p' blank side front back := by
  unfold askTwice at asked
  split at asked
  next => cases asked
  next source' front' room first =>
    obtain ⟨named, read⟩ := ask_ok first
    have second : (((between room).ask p'.query p'.pick).1.map Prod.snd).toOption =
        ((between room).archive.tells p' ((between room).archive.reader p')).toOption := by
      simp only [ask, Archive.ask_reader]
      cases (between room).archive.tells p' ((between room).archive.reader p') <;> rfl
    simp only [second] at asked
    cases asked
    rw [first]
    exact ⟨_, named, Sourced.of_reads _ p' blank read⟩

theorem askHistory_sourced {start stop : Instant} {id : Option IntersectionId} {reply : HistoryReply}
    (done : s.askHistory start stop id = (.ok (.history reply), s')) :
    reply.Sourced s.archive start stop id := by
  unfold askHistory at done
  split at done
  next asked =>
    cases done
    obtain ⟨named, read⟩ := @ask_ok _ _ _ (.history start stop id) _ _ asked
    refine ⟨rfl, rfl, _, named, read, fun failed => ?_⟩
    simp [Archive.reader, Watch.healthy, failed]
  next => cases done

theorem history_sourced {start stop : Instant} {intersection : Option String} {reply : HistoryReply}
    (done : s.history start stop intersection = (.ok (.history reply), s')) :
    reply.Sourced s.archive start stop intersection := by
  unfold history at done
  split at done
  · cases done
  · cases intersection with
    | none => exact askHistory_sourced done
    | some name =>
      simp only at done
      split at done
      next resolved =>
        obtain ⟨rfl, -⟩ := Controller.resolve_ok_iff.mp resolved
        exact askHistory_sourced done
      next => cases done

theorem view_ok {now : Instant} {name : String} {v : View} (viewed : s.view now name = .ok (.ok v, s')) :
    s' = s ∧ v.intersection = name := by
  unfold view at viewed
  split at viewed
  next found =>
    obtain ⟨id, resolved, found⟩ := bind_ok found
    obtain ⟨rfl, -⟩ := Controller.resolve_ok_iff.mp resolved
    obtain ⟨cell, _, found⟩ := bind_ok found
    cases found
    split at viewed
    next =>
      cases viewed
      exact ⟨rfl, rfl⟩
    next => cases viewed
  next => cases viewed

end

/-- The named store has answered the first read; the second part is of whichever store that read ended
at. -/
theorem sources_exact (s : ControlRoom) (between : ControlRoom → ControlRoom) (now : Instant) :
    (∀ name, s.dispatch now (.status name) = s.statusAmid id now name) ∧
    s.dispatch now .summary = .ok (s.summaryAmid id) ∧
    (∀ name reply s', s.statusAmid between now name = .ok (.ok (.status reply), s') →
      let events := Part.events name s.recent
      let later := between (s.ask events.query events.pick).2
      (reply.storeFault = none → ∃ side, reply.source = some (s.archive.store side).name ∧
        Sourced s.archive later.archive events (.lastChange name) none side reply.events
          reply.lastChange) ∧
      (reply.storeFault.isSome → reply.source = none ∧ reply.events = [] ∧ reply.lastChange = none)) ∧
    (∀ reply s', s.summaryAmid between = (.ok (.summary reply), s') →
      let later := between (s.ask Part.totals.query Part.totals.pick).2
      (reply.storeFault = none → ∃ side totals, reply.source = some (s.archive.store side).name ∧
        reply.totals = some totals ∧
        Sourced s.archive later.archive .totals .overrides [] side totals reply.overrides) ∧
      (reply.storeFault.isSome → reply.source = none ∧ reply.totals = none ∧ reply.overrides = [])) ∧
    ∀ start stop intersection reply s',
      s.history start stop intersection = (.ok (.history reply), s') →
      reply.Sourced s.archive start stop intersection := by
  refine ⟨fun name => (s.status_amid now name).symm, by rw [summary_amid, dispatch],
    fun name reply s' done => ?_, fun reply s' done => ?_, fun _ _ _ _ _ done => history_sourced done⟩
  · unfold statusAmid at done
    split at done
    next => cases done
    next => cases done
    next v room viewed =>
      obtain ⟨rfl, place⟩ := view_ok viewed
      rw [place] at done
      split at done
      next =>
        cases done
        refine ⟨?_, fun _ => ⟨rfl, rfl, rfl⟩⟩
        rintro ⟨⟩
      next asked =>
        cases done
        obtain ⟨side, named, sourced⟩ := askTwice_sourced asked
        refine ⟨fun _ => ⟨side, congrArg some named, sourced⟩, ?_⟩
        rintro ⟨⟩
  · unfold summaryAmid at done
    split at done
    next =>
      cases done
      refine ⟨?_, fun _ => ⟨rfl, rfl, rfl⟩⟩
      rintro ⟨⟩
    next asked =>
      cases done
      obtain ⟨side, named, sourced⟩ := askTwice_sourced asked
      refine ⟨fun _ => ⟨side, _, congrArg some named, rfl, sourced⟩, ?_⟩
      rintro ⟨⟩

def status? : Act Response → Option StatusReply
  | .ok (.ok (.status reply), _) => some reply
  | _ => none

def summary? : Act Response → Option SummaryReply
  | .ok (.ok (.summary reply), _) => some reply
  | _ => none

theorem status?_some {done : Act Response} {reply : StatusReply} (told : status? done = some reply) :
    ∃ s', done = .ok (.ok (.status reply), s') := by
  unfold status? at told
  split at told
  · cases told
    exact ⟨_, rfl⟩
  · cases told

theorem sources_exact_failed_over :
    let old : Transition := ⟨"INT-A1", .red, .green, "congestion", none, .epoch⟩
    let new : Transition := ⟨"INT-A1", .green, .red, "manual", none, .epoch⟩
    let room : ControlRoom :=
      { onLogs {} .epoch with
        archive :=
          { replica := .log { name := "replica", records := [.change old, .change new] }
            primary := .log { name := "primary", records := [.change old] }
            queue := [.change new], depth := 1, retries := 1 } }
    let failOver : ControlRoom → ControlRoom := fun s => (s.probe false .epoch).2
    ∃ reply s', room.statusAmid failOver .epoch "INT-A1" = .ok (.ok (.status reply), s') ∧
      reply.source = some "primary" ∧ reply.lastChange = some new ∧
      room.archive.tells (.lastChange "INT-A1") .primary = .ok (some old) := by
  intro old new room failOver
  have told :
      (status? (room.statusAmid failOver .epoch "INT-A1")).map StatusReply.storeFault = some none := by
    decide +kernel
  obtain ⟨reply, found, answered⟩ := Option.map_eq_some_iff.mp told
  obtain ⟨s', done⟩ := status?_some found
  obtain ⟨_, _, status, _⟩ := sources_exact room failOver .epoch
  obtain ⟨side, named, sourced⟩ := (status _ _ _ done).1 answered
  obtain rfl : .primary = side := sourced.reader
  exact ⟨reply, s', done, named, sourced.answered _ rfl, rfl⟩

theorem parts_not_of_source :
    let reading : Reading := ⟨"INT-A1", "CAM-A1", .epoch, .queue 3 40.0⟩
    let change : Transition := ⟨"INT-A1", .red, .green, "manual", none, .epoch⟩
    let act : Override := ⟨.forceChange, "INT-A1", "", "operator", ["INT-A1"], .epoch⟩
    let room : ControlRoom :=
      { onLogs {} .epoch with
        archive :=
          { replica := .log
              { name := "replica", records := [.event reading, .change change, .action act] }
            primary := .remote
              ⟨"primary", ⟨"store:7001", .up, some { closed := true }⟩, { name := "primary" }⟩
            depth := 1, retries := 1 } }
    let failedOver : ControlRoom := { room with archive := { room.archive with watch := { failed := true } } }
    let outage : ControlRoom → ControlRoom := fun s => { s with archive := s.archive.step (.replica false) }
    room.archive.tells (.events "INT-A1" 1) .replica = .ok [reading] ∧
    room.archive.tells (.lastChange "INT-A1") .replica = .ok (some change) ∧
    room.archive.tells .overrides .replica = .ok [act] ∧
    ((status? (room.dispatch .epoch (.status "INT-A1"))).map fun reply =>
      (reply.source, reply.storeFault, reply.lastChange)) = some (some "replica", none, none) ∧
    ((summary? (room.dispatch .epoch .summary)).map fun reply =>
      (reply.source, reply.storeFault, reply.overrides)) = some (some "replica", none, []) ∧
    ((status? (failedOver.statusAmid outage .epoch "INT-A1")).map fun reply =>
      (reply.source, reply.storeFault, reply.lastChange)) = some (some "replica", none, none) ∧
    ((status? ({ failedOver with recent := 0 }.dispatch .epoch (.status "INT-A1"))).map fun reply =>
      (reply.source, reply.storeFault, reply.events)) = some (some "replica", none, []) := by
  intro reading change act room failedOver outage
  refine ⟨rfl, rfl, rfl, ?_, ?_, ?_, ?_⟩
  all_goals decide +kernel

end ControlRoom

end Signalgrid
