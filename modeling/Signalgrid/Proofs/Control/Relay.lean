import Signalgrid.Proofs.Control.History
import Signalgrid.Proofs.Control.Undisturbed
import Signalgrid.Proofs.Net.Lines
import Signalgrid.Proofs.Sensor.Places

set_option autoImplicit false

namespace Signalgrid

inductive Heading where
  | accepted
  | malformed
  | unknown
deriving DecidableEq

namespace Heading

def counter (c : Counters) : Heading → Nat
  | .accepted => c.accepted
  | .malformed => c.malformed
  | .unknown => c.unknown

def ofOutcome : Except IngestFault IngestOutcome → Heading
  | .ok _ => .accepted
  | .error (.line (.unknownIntersection _)) => .unknown
  | .error (.line _) => .malformed
  | .error (.unknownIntersection _) => .unknown

theorem counter_absorb (h : Heading) (a : Archive) (e : Effects) :
    h.counter (a.absorb e).counters = h.counter a.counters := by
  obtain ⟨writes, failures, skipped, counters⟩ :=
    (e.alerts.foldl Archive.alert (a.count fun c =>
      { c with changes := c.changes + e.changes, transitions := c.transitions + e.transitions })
      ).recordAll_counters e.records
  rw [Archive.absorb, counters, Archive.alerts_eq]
  cases h <;> rfl

theorem counter_lineFault (h : Heading) (fault : LineFault) (c : Counters) :
    h.counter (ControlRoom.noteLineFault fault c) =
      h.counter c + if h = ofOutcome (.error (.line fault)) then 1 else 0 := by
  cases fault <;> cases h <;> rfl

end Heading

def Counters.heard (c : Counters) : Nat := c.accepted + c.malformed + c.unknown

namespace ControlRoom

section

variable {settings : Settings} (valid : settings.validate.isOk = true) {s s' : ControlRoom}
  (complete : s.controller.Complete settings) {now : Instant}

include valid complete

theorem ingestLine_heading {line : List Char} {outcome : Except IngestFault IngestOutcome}
    (done : s.ingestLine now line = .ok (outcome, s')) :
    (∀ name, outcome ≠ .error (.unknownIntersection name)) ∧
      ∀ h : Heading, h.counter s'.archive.counters =
        h.counter s.archive.counters + if h = .ofOutcome outcome then 1 else 0 := by
  unfold ingestLine at done
  split at done
  next r parsed =>
    rw [complete.grid] at parsed
    have listed : r.intersection ∈ s.controller.grid.ids := by
      rw [complete.grid]
      exact SensorLine.parse_configured valid parsed
    obtain ⟨cell, found⟩ := Option.isSome_iff_exists.mp (complete.present _ listed)
    unfold ingest at done
    rw [Controller.ingest_found _ now r found] at done
    cases guardTick_ok done
    refine ⟨by simp, fun h => ?_⟩
    rw [install, h.counter_absorb]
    cases h <;> rfl
  next fault parsed =>
    cases done
    exact ⟨by simp, fun h => h.counter_lineFault fault s.archive.counters⟩
  next => cases done

theorem ingestLine_heard {line : List Char} {outcome : Except IngestFault IngestOutcome}
    (done : s.ingestLine now line = .ok (outcome, s')) :
    s'.archive.counters.heard = s.archive.counters.heard + 1 := by
  have counted := (ingestLine_heading valid complete done).2
  have accepted := counted .accepted
  have malformed := counted .malformed
  have unknown := counted .unknown
  simp only [Heading.counter] at accepted malformed unknown
  rw [Counters.heard, accepted, malformed, unknown, Counters.heard]
  cases Heading.ofOutcome outcome <;> simp <;> omega

end

section

variable {σ : Type} {take : σ → Bytes → Except σ σ}

theorem feedWithin_lines {fuel : Nat} {s s' : σ} {stream : Bytes}
    (enough : (Frame.lines stream).length < fuel)
    (fits : ∀ line ∈ Frame.lines stream, line.length ≤ Frame.maxSize)
    (done : (Frame.lines stream).foldlM (fun s line => take s (Frame.body line)) s = .ok s') :
    feedWithin take fuel s stream = s' := by
  induction fuel generalizing s stream with
  | zero => exact absurd enough (Nat.not_lt_zero _)
  | succ fuel ih =>
    rw [feedWithin]
    cases cut : Frame.lines stream with
    | nil =>
      rw [cut] at done
      cases done
      have none : stream = [] := by
        rw [← Frame.lines_flatten stream, cut]
        rfl
      subst none
      rfl
    | cons line more =>
      rw [cut] at enough fits done
      obtain ⟨short, fits⟩ := List.forall_mem_cons.mp fits
      rw [List.foldlM_cons] at done
      obtain ⟨s₁, taken, done⟩ := bind_ok done
      have rest := Frame.lines_rest cut
      simp only [Frame.takeRaw_line cut, if_neg (Nat.not_lt.mpr short), taken]
      apply ih
      · rw [rest]
        exact Nat.lt_of_succ_lt_succ enough
      · rwa [rest]
      · rwa [rest]

theorem feed_lines {s s' : σ} {stream : Bytes}
    (fits : ∀ line ∈ Frame.lines stream, line.length ≤ Frame.maxSize)
    (done : (Frame.lines stream).foldlM (fun s line => take s (Frame.body line)) s = .ok s') :
    feed take s stream = s' :=
  feedWithin_lines (Nat.lt_succ_of_le (Frame.lines_length_le stream)) fits done

theorem feed_append {s s' : σ} {first second : Bytes} (ended : first.getLast? = some Frame.newline)
    (fits : ∀ line ∈ Frame.lines (first ++ second), line.length ≤ Frame.maxSize)
    (done : (Frame.lines (first ++ second)).foldlM (fun s line => take s (Frame.body line)) s = .ok s') :
    feed take s (first ++ second) = feed take (feed take s first) second := by
  rw [feed_lines fits done]
  rw [Frame.lines_append_ended ended] at fits done
  rw [List.foldlM_append] at done
  obtain ⟨fits, fits'⟩ := List.forall_mem_append.mp fits
  obtain ⟨s₁, front, back⟩ := bind_ok done
  rw [feed_lines fits front, feed_lines fits' back]

end

inductive Fate where
  | corrupt
  | skipped
  | event (text : List Char)
deriving DecidableEq

def fate (topics : List String) (line : Bytes) : Fate :=
  match Text.decodeUtf8 (Frame.body line) with
  | .error _ => .corrupt
  | .ok text => if Text.allBlank text || !wants topics text then .skipped else .event text

def heed (s : ControlRoom) (now : Instant) : Fate → ControlRoom
  | .corrupt => s.count fun c => { c with malformed := c.malformed + 1 }
  | .skipped => s
  | .event text => s.perform now (.line text)

def canHeed (s : ControlRoom) (now : Instant) : Fate → Bool
  | .event text => (s.attempt now (.line text)).isSome
  | _ => true

theorem relayLine_heeds {s : ControlRoom} {now : Instant} {line : Bytes}
    (can : s.canHeed now (fate s.topics line) = true) :
    s.relayLine now (Frame.body line) = .ok (s.heed now (fate s.topics line)) := by
  unfold relayLine fate at *
  cases decoded : Text.decodeUtf8 (Frame.body line) with
  | error e => rfl
  | ok text =>
    simp only [decoded] at can ⊢
    split
    next passed => rfl
    next heard =>
      rw [if_neg heard] at can
      obtain ⟨s', done⟩ := Option.isSome_iff_exists.mp can
      rw [heed, perform_done done]
      exact attempt_some.mp done

section

-- What befalls the room before each line, and the time at which the line is taken in.
variable (schedule : Nat → List (Instant × Event) × Instant)

def relayAmid (state : Nat × ControlRoom) (raw : Bytes) : Except (Nat × ControlRoom) (Nat × ControlRoom) :=
  match (state.2.live (schedule state.1).1).relayLine (schedule state.1).2 raw with
  | .ok s => .ok (state.1 + 1, s)
  | .error s => .error (state.1 + 1, s)

def heedAmid (state : Nat × ControlRoom) (line : Bytes) : Nat × ControlRoom :=
  let s := state.2.live (schedule state.1).1
  (state.1 + 1, s.heed (schedule state.1).2 (fate s.topics line))

def canHeedAll : Nat × ControlRoom → List Bytes → Bool
  | _, [] => true
  | state, line :: rest =>
      let s := state.2.live (schedule state.1).1
      s.canHeed (schedule state.1).2 (fate s.topics line) && canHeedAll (heedAmid schedule state line) rest

variable {schedule}

theorem relayAmid_lines {state : Nat × ControlRoom} {lines : List Bytes}
    (can : canHeedAll schedule state lines = true) :
    lines.foldlM (fun state line => relayAmid schedule state (Frame.body line)) state =
      .ok (lines.foldl (heedAmid schedule) state) := by
  induction lines generalizing state with
  | nil => rfl
  | cons line rest ih =>
    simp only [canHeedAll, Bool.and_eq_true] at can
    have taken : relayAmid schedule state (Frame.body line) = .ok (heedAmid schedule state line) := by
      rw [relayAmid, relayLine_heeds can.1]
      rfl
    rw [List.foldlM_cons, taken]
    exact ih can.2

theorem relay_eq (s : ControlRoom) (now : Instant) (n : Nat) (stream : Bytes) :
    s.relay now stream = (feed (relayAmid fun _ => ([], now)) (n, s) stream).2 := by
  rw [relay, feed, feed]
  -- The count of lines plays no part, since nothing comes between them.
  generalize stream.length + 1 = fuel
  induction fuel generalizing n s stream with
  | zero => rfl
  | succ fuel ih =>
    rw [feedWithin, feedWithin]
    split
    next raw _ =>
      simp only [relayAmid, live, List.foldl_nil]
      cases s.relayLine now raw with
      | error e => rfl
      | ok after => exact ih after (n + 1) (Frame.takeRaw stream).rest
    next => rfl

end

section

variable {settings : Settings} {s : ControlRoom} (complete : s.controller.Complete settings)

theorem perform_topics (s : ControlRoom) (now : Instant) (op : Operation) :
    (s.perform now op).topics = s.topics := by
  cases attempted : s.attempt now op with
  | none =>
    obtain ⟨n, m, left⟩ := perform_stopped attempted
    rw [left]
    rfl
  | some s' =>
    rw [perform_done attempted]
    obtain ⟨f, rfl⟩ := attempt_takes attempted
    rfl

include complete

theorem heed_complete (now : Instant) (f : Fate) : (s.heed now f).controller.Complete settings := by
  cases f with
  | corrupt => exact complete
  | skipped => exact complete
  | event text => exact befall_complete complete (.operation (.line text))

theorem heed_heard (valid : settings.validate.isOk = true) {now : Instant} {f : Fate}
    (can : s.canHeed now f = true) :
    (s.heed now f).archive.counters.heard = s.archive.counters.heard + if f = .skipped then 0 else 1 := by
  cases f with
  | corrupt =>
    simp only [heed, count, Archive.count, Counters.heard]
    simp only [reduceCtorEq, if_false]
    omega
  | skipped => rfl
  | event text =>
    obtain ⟨s', done⟩ := Option.isSome_iff_exists.mp can
    obtain ⟨⟨outcome, s''⟩, ingested, same⟩ := map_ok (attempt_some.mp done)
    rw [heed, perform_done done, ← same]
    exact ingestLine_heard valid complete ingested

theorem heedAmid_heard (valid : settings.validate.isOk = true)
    {schedule : Nat → List (Instant × Event) × Instant} (alone : ∀ n, (schedule n).1 = []) (n : Nat)
    {lines : List Bytes} (can : canHeedAll schedule (n, s) lines = true) :
    (lines.foldl (heedAmid schedule) (n, s)).2.archive.counters.heard =
      s.archive.counters.heard + lines.countP fun line => fate s.topics line ≠ .skipped := by
  induction lines generalizing n s with
  | nil => rfl
  | cons line rest ih =>
    have step : heedAmid schedule (n, s) line = (n + 1, s.heed (schedule n).2 (fate s.topics line)) := by
      simp only [heedAmid, alone, live, List.foldl_nil]
    have topics : (s.heed (schedule n).2 (fate s.topics line)).topics = s.topics := by
      cases fate s.topics line with
      | event text => exact s.perform_topics _ _
      | _ => rfl
    simp only [canHeedAll, Bool.and_eq_true, alone, live, List.foldl_nil, step] at can
    rw [List.foldl_cons, step, ih (heed_complete complete _ _) (n + 1) can.2,
      heed_heard complete valid can.1, topics, List.countP_cons]
    cases fate s.topics line <;> simp <;> omega

end

/-- The lines of the relay are taken in one by one, and each is accounted for. -/
theorem relay_accounts {settings : Settings} (valid : settings.validate.isOk = true)
    {replica primary : Store} {start : Instant} {room : ControlRoom}
    (ready : start? settings replica primary start = some room) (events : List (Instant × Event))
    (schedule : Nat → List (Instant × Event) × Instant) (stream : Bytes)
    (fits : ∀ line ∈ Frame.lines stream, line.length ≤ Frame.maxSize)
    (can : canHeedAll schedule (0, room.live events) (Frame.lines stream) = true) :
    let s := room.live events
    let fed := feed (relayAmid schedule) (0, s) stream
    fed = (Frame.lines stream).foldl (heedAmid schedule) (0, s) ∧
      (∀ first second, stream = first ++ second → first.getLast? = some Frame.newline →
        fed = feed (relayAmid schedule) (feed (relayAmid schedule) (0, s) first) second) ∧
      (∀ events now text outcome s', (room.live events).ingestLine now text = .ok (outcome, s') →
        (∀ name, outcome ≠ .error (.unknownIntersection name)) ∧
          ∀ h : Heading, h.counter s'.archive.counters =
            h.counter (room.live events).archive.counters + if h = .ofOutcome outcome then 1 else 0) ∧
      ((∀ n, (schedule n).1 = []) →
        fed.2.archive.counters.heard = s.archive.counters.heard +
          (Frame.lines stream).countP fun line => fate s.topics line ≠ .skipped) ∧
      ∀ now n, s.relay now stream = (feed (relayAmid fun _ => ([], now)) (n, s) stream).2 := by
  intro s fed
  have complete (events : List (Instant × Event)) : (room.live events).controller.Complete settings :=
    live_complete (start?_complete ready) events
  have taken := relayAmid_lines can
  have folded : fed = (Frame.lines stream).foldl (heedAmid schedule) (0, s) := feed_lines fits taken
  refine ⟨folded, ?_, ?_, ?_, fun now n => relay_eq s now n stream⟩
  · rintro first second rfl ended
    exact feed_append ended fits taken
  · intro events now text outcome s' done
    exact ingestLine_heading valid (complete events) done
  · intro alone
    rw [folded]
    exact heedAmid_heard (complete events) valid alone 0 can

theorem relay_accounts_mixed :
    let settings : Settings :=
      { rows := ["A"], columns := [1], ingest := { relay := some "relay:5556", topics := ["camara"] } }
    let reading (place : String) : String :=
      "camara \x7b\"sensor_id\":\"CAM\",\"interseccion\":\"" ++ place ++ "\",\"volumen\":12," ++
        "\"velocidad_promedio\":30.5,\"timestamp\":\"2025-02-01T10:00:00Z\"\x7d\n"
    let first : Bytes := 0xff :: Text.encodeUtf8 "\ngps \x7b\x7d\n\r\n"
    let second : Bytes := Text.encodeUtf8 (reading "INT-A1" ++ reading "INT-B7")
    settings.validate.isOk = true ∧
      ∃ room,
        start? settings (.log { name := "replica" }) (.log { name := "primary" }) .epoch = some room ∧
          room.relay .epoch (first ++ second) = (room.relay .epoch first).relay .epoch second ∧
          (room.relay .epoch (first ++ second)).archive.counters.heard = 3 := by
  intro settings reading first second
  have valid : settings.validate.isOk = true := by decide +kernel
  have ended : first.getLast? = some Frame.newline := by decide +kernel
  have fresh : (onLogs settings .epoch).live [] = onLogs settings .epoch := rfl
  obtain ⟨_, apart, _, heard, alone⟩ := relay_accounts valid
    (start?_onLogs (s := settings) (by decide) .epoch) [] (fun _ => ([], .epoch)) (first ++ second)
    (by decide +kernel) (by decide +kernel)
  rw [fresh] at apart heard alone
  refine ⟨valid, _, start?_onLogs (by decide) _, ?_, ?_⟩
  · rw [alone .epoch 0, apart first second rfl ended, relay_eq _ _ 0 first, ← relay_eq]
  · rw [alone .epoch 0, heard fun _ => rfl]
    decide +kernel

end ControlRoom

end Signalgrid
