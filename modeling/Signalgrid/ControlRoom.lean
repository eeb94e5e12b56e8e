import Signalgrid.Archive
import Signalgrid.Gateway.Reply
import Signalgrid.Sensor.Line
import Signalgrid.Net.Frame

set_option autoImplicit false

namespace Signalgrid

structure ControlRoom where
  controller : Controller
  archive : Archive
  topics : List String
  recent : Nat := 10

abbrev Act (α : Type) := Except ControlRoom (α × ControlRoom)

inductive IngestFault where
  | line (fault : LineFault)
  | unknownIntersection (name : String)
deriving DecidableEq

def IngestFault.message : IngestFault → String
  | .line fault => "rejected sensor event: " ++ fault.message
  | .unknownIntersection name => "unknown intersection " ++ name

namespace ControlRoom

def start? (s : Settings) (replica primary : Store) (now : Instant) : Option ControlRoom :=
  (Archive.start? s replica primary).map fun archive =>
    { controller := .ofSettings s now, archive := archive, topics := s.ingest.topics }

def count (s : ControlRoom) (f : Counters → Counters) : ControlRoom := { s with archive := s.archive.count f }

def noteUnknown (c : Counters) : Counters := { c with unknown := c.unknown + 1 }

def noteLineFault (fault : LineFault) (c : Counters) : Counters :=
  match fault with
  | .unknownIntersection _ => noteUnknown c
  | _ => { c with malformed := c.malformed + 1 }

def install (s : ControlRoom) (c : Controller) (e : Effects) : ControlRoom :=
  { s with controller := c, archive := s.archive.absorb e }

/-- What stops on its way records nothing, but what it has done to cells and counters stays. -/
def guardTick {α : Type} (s : ControlRoom) (now : Instant) (visits : List (IntersectionId × CellAct))
    (act : Act α) : Act α :=
  match Controller.halt? now visits (s.controller, {}) with
  | some (c, e) => .error (s.install c { changes := e.changes, transitions := e.transitions })
  | none => act

def ingest (s : ControlRoom) (now : Instant) (r : Reading) : Act (Except IngestFault IngestOutcome) :=
  match s.controller.ingest now r with
  | .ok (c, e, outcome) =>
      s.guardTick now [(r.intersection, .ingest r)] <|
        .ok (.ok outcome, (s.count fun k => { k with accepted := k.accepted + 1 }).install c e)
  | .error _ => .ok (.error (.unknownIntersection r.intersection), s)

def ingestLine (s : ControlRoom) (now : Instant) (line : List Char) : Act (Except IngestFault IngestOutcome) :=
  match SensorLine.parse s.controller.grid line with
  | .accepted r => s.ingest now r
  | .rejected fault => .ok (.error (.line fault), s.count (noteLineFault fault))
  | .overflow => .error s

def sweep (s : ControlRoom) (now : Instant) : Act Nat :=
  s.guardTick now (s.controller.grid.ids.map (·, .sweep)) <|
    let (c, e) := s.controller.sweep now
    .ok (e.records.length, s.install c e)

def wave (s : ControlRoom) (now : Instant) (route : Route) (reason requestedBy : String) :
    Act (Except ControlFault WaveOutcome) :=
  match s.controller.wave now route reason requestedBy with
  | .ok (c, e, outcome) =>
      s.guardTick now (outcome.affected.map (·, .wave reason)) <|
        .ok (.ok outcome, (s.count fun k => { k with greenWaves := k.greenWaves + 1 }).install c e)
  | .error fault => .ok (.error fault, s)

def noteFault (s : ControlRoom) (name : String) : ControlRoom :=
  match s.controller.grid.resolve name with
  | .ok _ => s
  | .error _ => s.count noteUnknown

def hold (s : ControlRoom) (now : Instant) (name : String) (color : Color) (requestedBy : String) :
    Act (Except ControlFault HoldOutcome) :=
  match s.controller.hold now name color requestedBy with
  | .ok (c, e, outcome) =>
      s.guardTick now [(outcome.intersection, .hold color)] <|
        let s := if outcome.applied then s.count fun k => { k with manualChanges := k.manualChanges + 1 } else s
        .ok (.ok outcome, s.install c e)
  | .error fault => .ok (.error fault, s.noteFault name)

def view (s : ControlRoom) (now : Instant) (name : String) : Act (Except ControlFault View) :=
  match s.controller.view now name with
  | .ok v => if s.controller.canTick now [v.intersection] then .ok (.ok v, s) else .error s
  | .error fault => .ok (.error fault, s.noteFault name)

def ask {α : Type} (s : ControlRoom) (q : Query) (pick : Reply → Except StoreFault α) :
    Except RequestFault (String × α) × ControlRoom :=
  let (answer, archive) := s.archive.ask q pick
  (answer.mapError fun e => .noStore e.message, { s with archive := archive })

def status (s : ControlRoom) (now : Instant) (name : String) : Act Response :=
  match s.view now name with
  | .error e => .error e
  | .ok (.error fault, s) => .ok (.error (.ofControl fault), s)
  | .ok (.ok view, s) =>
      match s.ask (.events view.intersection s.recent) Reply.events? with
      | (.error e, s) => .ok (.ok (.status { view := view, storeFault := some e.message }), s)
      | (.ok (source, events), s) =>
          let (change, s) := s.ask (.lastChange view.intersection) Reply.lastChange?
          let lastChange := match change with
            | .ok (_, t) => t
            | .error _ => none
          .ok (.ok (.status
            { view := view, events := events, lastChange := lastChange, source := some source }), s)

def historyFault (start stop : Instant) : RequestFault :=
  .malformed ("history window starts after it ends (" ++ start.toProse ++ " > " ++ stop.toProse ++ ")")

def askHistory (s : ControlRoom) (start stop : Instant) (id : Option IntersectionId) : Response × ControlRoom :=
  match s.ask (.history start stop id) Reply.history? with
  | (.ok (source, rows), s) => (.ok (.history ⟨source, start, stop, rows⟩), s)
  | (.error e, s) => (.error e, s)

def history (s : ControlRoom) (start stop : Instant) (intersection : Option String) : Response × ControlRoom :=
  if stop < start then (.error (historyFault start stop), s)
  else match intersection with
    | none => s.askHistory start stop none
    | some name =>
        match s.controller.resolve name with
        | .ok id => s.askHistory start stop (some id)
        | .error fault => (.error (.ofControl fault), s.noteFault name)

def recentOverrides : Nat := 10

def summarize (s : ControlRoom) (totals : Option Totals) (overrides : List Override)
    (source storeFault : Option String) : SummaryReply :=
  { watch := s.archive.watch
    intersections := s.controller.grid.ids.length
    states := s.controller.stateCounts
    totals := totals
    overrides := overrides
    source := source
    storeFault := storeFault
    counters := s.archive.counters
    alerts := s.archive.audit.size }

def summary (s : ControlRoom) : Response × ControlRoom :=
  match s.ask .totals Reply.totals? with
  | (.error e, s) => (.ok (.summary (s.summarize none [] none (some e.message))), s)
  | (.ok (source, totals), s) =>
      let (acts, s) := s.ask (.overrides recentOverrides) Reply.overrides?
      let overrides := match acts with
        | .ok (_, rows) => rows
        | .error _ => []
      (.ok (.summary (s.summarize (some totals) overrides (some source) none)), s)

def defaultReason : String := "priority override"
def defaultRequester : String := "gateway"

def dispatch (s : ControlRoom) (now : Instant) : Request → Act Response
  | .status name => s.status now name
  | .history start stop intersection => .ok (s.history start stop intersection)
  | .greenWave route reason requestedBy =>
      (s.wave now route (reason.getD defaultReason) (requestedBy.getD defaultRequester)).map fun (r, s) =>
        ((r.map Answer.greenWave).mapError .ofControl, s)
  | .manualChange name color requestedBy =>
      (s.hold now name color (requestedBy.getD defaultRequester)).map fun (r, s) =>
        ((r.map Answer.manualChange).mapError .ofControl, s)
  | .summary => .ok s.summary
  | .health => .ok (.ok (.health s.archive.watch now), s)

def noteResponse (s : ControlRoom) : Response → ControlRoom
  | .ok _ => s
  | .error _ => s.count fun k => { k with requestFaults := k.requestFaults + 1 }

def noteRequest (s : ControlRoom) : ControlRoom := s.count fun k => { k with requests := k.requests + 1 }

def handle (s : ControlRoom) (now : Instant) (r : Request) : Act Response :=
  (s.noteRequest.dispatch now r).map fun (response, s) => (response, s.noteResponse response)

def handleLine (s : ControlRoom) (now : Instant) (line : List Char) : Act Response :=
  match Request.decode.ofText line with
  | .ok r => s.handle now r
  | .error e =>
      let response : Response := .error (.malformed e.message)
      .ok (response, s.noteRequest.noteResponse response)

def conversationWithin {σ : Type} (handle : σ → List Char → Except σ (Response × σ)) :
    Nat → σ → Bytes → List Response → List Response × σ
  | 0, s, _, done => (done.reverse, s)
  | fuel + 1, s, stream, done =>
      let r := Frame.takeFilled (stream.length + 1) stream
      match r.result with
      | .ok (some line) =>
          match handle s line with
          | .ok (response, s) => conversationWithin handle fuel s r.rest (response :: done)
          | .error s => (done.reverse, s)
      | _ => (done.reverse, s)

def conversation {σ : Type} (handle : σ → List Char → Except σ (Response × σ)) (s : σ)
    (stream : Bytes) : List Response × σ :=
  conversationWithin handle (stream.length + 1) s stream []

def gateway (s : ControlRoom) (now : Instant) (stream : Bytes) : List Response × ControlRoom :=
  conversation (fun s line => s.handleLine now line) s stream

def wants (topics : List String) (line : List Char) : Bool :=
  match SensorLine.topic line with
  | some topic => topics.isEmpty || topics.contains topic
  | none => true

def relayLine (s : ControlRoom) (now : Instant) (raw : Bytes) : Except ControlRoom ControlRoom :=
  match Text.decodeUtf8 raw with
  | .error e => .ok (s.count (noteLineFault (.badEncoding e)))
  | .ok line =>
      if Text.allBlank line || !wants s.topics line then .ok s
      else (s.ingestLine now line).map Prod.snd

def feedWithin {σ : Type} (take : σ → Bytes → Except σ σ) : Nat → σ → Bytes → σ
  | 0, s, _ => s
  | fuel + 1, s, stream =>
      let r := Frame.takeRaw stream
      match r.result with
      | .ok (some raw) =>
          match take s raw with
          | .ok s => feedWithin take fuel s r.rest
          | .error s => s
      | _ => s

def feed {σ : Type} (take : σ → Bytes → Except σ σ) (s : σ) (stream : Bytes) : σ :=
  feedWithin take (stream.length + 1) s stream

def relay (s : ControlRoom) (now : Instant) (stream : Bytes) : ControlRoom :=
  feed (fun s raw => s.relayLine now raw) s stream

def probe (s : ControlRoom) (ok : Bool) (now : Instant) : Option Shift × ControlRoom :=
  let (shift, archive) := s.archive.probe ok now
  (shift, { s with archive := archive })

def drain (s : ControlRoom) : ControlRoom := { s with archive := s.archive.drain }

end ControlRoom

end Signalgrid
