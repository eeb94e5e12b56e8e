import Signalgrid.Proofs.Control.History
import Signalgrid.Proofs.Control.Undisturbed
import Signalgrid.Proofs.Net.Lines
import Mathlib.Data.List.TakeWhile

set_option autoImplicit false

namespace Signalgrid.ControlRoom

section

variable {σ : Type} (handle : σ → List Char → Except σ (Response × σ))

def answers : σ → List Bytes → List Response × σ
  | s, [] => ([], s)
  | s, line :: rest =>
      match Frame.content line with
      | .error _ => ([], s)
      | .ok text =>
          match handle s text with
          | .error s' => ([], s')
          | .ok (response, s') => (response :: (answers s' rest).1, (answers s' rest).2)

theorem conversationWithin_eq (fuel : Nat) (s : σ) (stream : Bytes) (done : List Response)
    (enough : (Frame.filledLines stream).length < fuel) :
    conversationWithin handle fuel s stream done =
      (done.reverse ++ (answers handle s (Frame.filledLines stream)).1,
        (answers handle s (Frame.filledLines stream)).2) := by
  -- Every turn takes a filled line, so there are turns enough for all of them.
  induction fuel generalizing s stream done with
  | zero => exact absurd enough (Nat.not_lt_zero _)
  | succ fuel ih =>
    have taken := Frame.takeFilled_exact stream
    rw [conversationWithin]
    cases cut : Frame.filledLines stream with
    | nil =>
      rw [cut] at taken
      have none : (Frame.takeFilled (stream.length + 1) stream).result = .ok none := taken
      simp only [none, answers, List.append_nil]
    | cons line more =>
      rw [cut] at taken enough
      obtain ⟨result, rest⟩ := taken
      cases said : Frame.content line with
      | error e =>
        rw [said] at result
        simp only [result, Except.map, answers, said, List.append_nil]
      | ok text =>
        have left := rest (by rw [said]; simp)
        rw [said] at result
        simp only [result, Except.map, answers, said]
        cases handled : handle s text with
        | error e => simp only [List.append_nil]
        | ok answer =>
          obtain ⟨response, s'⟩ := answer
          rw [List.length_cons, Nat.succ_lt_succ_iff, ← left] at enough
          simp only [ih s' _ (response :: done) enough, left, List.reverse_cons, List.append_assoc,
            List.singleton_append]

theorem conversation_eq (s : σ) (stream : Bytes) :
    conversation handle s stream = answers handle s (Frame.filledLines stream) := by
  rw [conversation, conversationWithin_eq handle _ s stream []
    (Nat.lt_succ_of_le (Frame.filledLines_length_le stream))]
  rfl

end

section

variable (s : ControlRoom) {now : Instant} (inside : now.isFinalLeap = false)

include inside

theorem status_inside (name : String) : (s.status now name).isOk = true := by
  have viewed : (s.view now name).isOk = true := by
    unfold view
    split
    · rw [s.controller.canTick_inside inside]
      rfl
    · rfl
  unfold status
  split
  next e failed =>
    rw [failed] at viewed
    cases viewed
  next => rfl
  next => split <;> rfl

theorem dispatch_inside (r : Request) : (s.dispatch now r).isOk = true := by
  cases r with
  | status name => exact s.status_inside inside name
  | greenWave route reason requestedBy =>
    simp only [dispatch, wave, guardTick_inside s inside]
    split <;> rfl
  | manualChange name color requestedBy =>
    simp only [dispatch, hold, guardTick_inside s inside]
    split <;> rfl
  | _ => rfl

theorem handleLine_inside (text : List Char) :
    ∃ response s', s.handleLine now text = .ok (response, s') := by
  unfold handleLine
  split
  next r decoded =>
    have answered := s.noteRequest.dispatch_inside inside r
    rw [handle]
    cases dispatched : s.noteRequest.dispatch now r with
    | error e =>
      rw [dispatched] at answered
      cases answered
    | ok answer => exact ⟨_, _, rfl⟩
  next e failed => exact ⟨_, _, rfl⟩

end

section

variable (schedule : Nat → List (Instant × Event) × Instant)

def handleAmid (state : Nat × ControlRoom) (text : List Char) :
    Except (Nat × ControlRoom) (Response × (Nat × ControlRoom)) :=
  match (state.2.live (schedule state.1).1).handleLine (schedule state.1).2 text with
  | .ok (response, s) => .ok (response, state.1 + 1, s)
  | .error s => .error (state.1 + 1, s)

inductive Exchange : Nat → ControlRoom → List Bytes → List Response → Prop where
  | done (n : Nat) (s : ControlRoom) : Exchange n s [] []
  | answered {n : Nat} {s s' : ControlRoom} {line : Bytes} {text : List Char} {rest : List Bytes}
      {response : Response} {more : List Response} (said : Frame.content line = .ok text)
      (handled : (s.live (schedule n).1).handleLine (schedule n).2 text = .ok (response, s'))
      (further : Exchange (n + 1) s' rest more) : Exchange n s (line :: rest) (response :: more)

variable {schedule}

theorem Exchange.length_eq {n : Nat} {s : ControlRoom} {lines : List Bytes} {responses : List Response}
    (exchange : Exchange schedule n s lines responses) : responses.length = lines.length := by
  induction exchange with
  | done => rfl
  | answered said handled further ih => rw [List.length_cons, List.length_cons, ih]

theorem Exchange.malformed {n : Nat} {s : ControlRoom} {lines : List Bytes}
    {responses : List Response} (exchange : Exchange schedule n s lines responses) :
    List.Forall₂
      (fun line response => ∀ text e, Frame.content line = .ok text →
        Request.decode.ofText text = .error e → response = .error (.malformed e.message))
      lines responses := by
  induction exchange with
  | done => exact .nil
  | answered said handled further ih =>
    refine .cons ?_ ih
    intro text e said' failed
    rw [said] at said'
    cases said'
    unfold handleLine at handled
    rw [failed] at handled
    cases handled
    rfl

theorem answers_exchange (inside : ∀ n, (schedule n).2.isFinalLeap = false) (n : Nat) (s : ControlRoom)
    (lines : List Bytes) :
    Exchange schedule n s (lines.takeWhile Frame.isText)
      (answers (handleAmid schedule) (n, s) lines).1 := by
  induction lines generalizing n s with
  | nil => exact .done n s
  | cons line rest ih =>
    rw [answers]
    cases said : Frame.content line with
    | error e =>
      have unread : ¬ Frame.isText line = true := by
        simp [Frame.isText, said, Except.isOk, Except.toBool]
      rw [List.takeWhile_cons_of_neg unread]
      exact .done n s
    | ok text =>
      have read : Frame.isText line = true := by simp [Frame.isText, said, Except.isOk, Except.toBool]
      obtain ⟨response, s', handled⟩ := (s.live (schedule n).1).handleLine_inside (inside n) text
      have amid : handleAmid schedule (n, s) text = .ok (response, n + 1, s') := by
        rw [handleAmid, handled]
      rw [List.takeWhile_cons_of_pos read]
      simp only [amid]
      exact .answered said handled (ih (n + 1) s')

theorem gateway_eq (s : ControlRoom) (now : Instant) (stream : Bytes) :
    s.gateway now stream =
      ((conversation (handleAmid fun _ => ([], now)) (0, s) stream).1,
        (conversation (handleAmid fun _ => ([], now)) (0, s) stream).2.2) := by
  rw [gateway, conversation_eq, conversation_eq]
  generalize Frame.filledLines stream = lines
  generalize 0 = n
  induction lines generalizing n s with
  | nil => rfl
  | cons line rest ih =>
    rw [answers, answers]
    cases Frame.content line with
    | error e => rfl
    | ok text =>
      simp only [handleAmid, live, List.foldl_nil]
      cases s.handleLine now text with
      | error e => rfl
      | ok answer =>
        dsimp only
        rw [ih answer.2 (n + 1)]

end

theorem takeWhile_length_iff {α : Type} (p : α → Bool) (xs : List α) :
    (xs.takeWhile p).length = xs.length ↔ ∀ x ∈ xs, p x = true := by
  rw [← List.takeWhile_eq_self_iff]
  exact ⟨(List.takeWhile_prefix p).eq_of_length, congrArg List.length⟩

/-- A connection answers its filled lines in order, up to the first that cannot be read. -/
theorem gateway_answers (s : ControlRoom) (schedule : Nat → List (Instant × Event) × Instant)
    (inside : ∀ n, (schedule n).2.isFinalLeap = false) (stream : Bytes) :
    let filled := Frame.filledLines stream
    let read := filled.takeWhile Frame.isText
    let responses := (conversation (handleAmid schedule) (0, s) stream).1
    let written := responses.map fun response => Frame.write response.encode
    Exchange schedule 0 s read responses ∧
      List.Forall₂
        (fun line response => ∀ text e, Frame.content line = .ok text →
          Request.decode.ofText text = .error e → response = .error (.malformed e.message))
        read responses ∧
      Frame.lines written.flatten = written ∧
      (written.length = filled.length ↔ ∀ line ∈ filled, Frame.isText line = true) ∧
      ∀ now, (s.gateway now stream).1 =
        (conversation (handleAmid fun _ => ([], now)) (0, s) stream).1 := by
  intro filled read responses written
  have exchange : Exchange schedule 0 s read responses := by
    have answered := answers_exchange inside 0 s filled
    rwa [← conversation_eq] at answered
  refine ⟨exchange, exchange.malformed, ?_, ?_, ?_⟩
  · have lines := Frame.lines_write (responses.map Response.encode)
    rwa [List.flatMap_map, List.map_map, List.flatMap_def] at lines
  · rw [List.length_map, exchange.length_eq]
    exact takeWhile_length_iff Frame.isText filled
  · intro now
    rw [gateway_eq]

theorem gateway_answers_malformed :
    let schedule : Nat → List (Instant × Event) × Instant :=
      fun _ => ([(.epoch, .archive (.probe false .epoch))], .epoch)
    let stream := Text.encodeUtf8 "\x7b\n \r\n" ++ Frame.write Request.health.encode
    let responses := (conversation (handleAmid schedule) (0, onLogs {} .epoch) stream).1
    responses.length = 2 ∧ ∃ e, responses.head? = some (.error (.malformed e)) := by
  intro schedule stream responses
  obtain ⟨_, malformed, _, all, _⟩ :=
    gateway_answers (onLogs {} .epoch) schedule (fun _ => rfl) stream
  have lines :
      Frame.filledLines stream = [Text.encodeUtf8 "\x7b\n", Frame.write Request.health.encode] := by
    decide +kernel
  have text : ∀ line ∈ Frame.filledLines stream, Frame.isText line = true := by decide +kernel
  have said : (Frame.content (Text.encodeUtf8 "\x7b\n")).toOption = some ['\x7b'] := by decide +kernel
  have failed : (Request.decode.ofText ['\x7b']).toOption = none := by decide +kernel
  constructor
  · have length := all.mpr text
    rwa [List.length_map, lines] at length
  · rw [List.takeWhile_eq_self_iff.mpr text, lines] at malformed
    obtain ⟨response, rest, first, _, same⟩ := List.forall₂_cons_left_iff.mp malformed
    cases content : Frame.content (Text.encodeUtf8 "\x7b\n") with
    | error e =>
      rw [content] at said
      cases said
    | ok text =>
      rw [content] at said
      cases said
      cases decoded : Request.decode.ofText ['\x7b'] with
      | ok r =>
        rw [decoded] at failed
        cases failed
      | error e =>
        refine ⟨e.message, ?_⟩
        rw [← first _ e content decoded]
        exact congrArg List.head? same

theorem illegible_line_unanswered :
    let stream := [0xff, Frame.newline] ++ Frame.write Request.health.encode
    (∀ line ∈ Frame.lines stream, line.length ≤ Frame.maxSize) ∧
      Frame.filledLines stream = [[0xff, Frame.newline], Frame.write Request.health.encode] ∧
        ((onLogs {} .epoch).gateway .epoch stream).1 = [] := by
  refine ⟨by decide +kernel, by decide +kernel, ?_⟩
  rw [← List.length_eq_zero_iff]
  decide +kernel

end Signalgrid.ControlRoom
