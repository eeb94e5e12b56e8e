import Signalgrid.Proofs.Net.Lines
import Signalgrid.Proofs.Store.Contents
import Signalgrid.Store.Host

set_option autoImplicit false

namespace Signalgrid

namespace Host

def asked (line : Bytes) : Except FrameFault StoreRequest := Frame.datum StoreRequest.decode line

def request? (line : Bytes) : Option StoreRequest := (asked line).toOption

section

variable {σ : Type} (b : Backing σ)

def attend : σ → List Bytes → Served σ
  | s, [] => ⟨[], s⟩
  | s, line :: rest =>
      match asked line with
      | .error e => ⟨.error e.reason :: (attend s rest).responses, (attend s rest).store⟩
      | .ok request =>
          let (response, s') := b.respond s request
          ⟨response :: (attend s' rest).responses, (attend s' rest).store⟩

theorem serveWithin_eq (fuel : Nat) (s : σ) (stream : Bytes) (done : List StoreResponse)
    (enough : (Frame.filledLines stream).length < fuel)
    (fits : ∀ line ∈ Frame.filledLines stream, line.length ≤ Frame.maxSize) :
    serveWithin b fuel s stream done =
      ⟨done.reverse ++ (attend b s (Frame.filledLines stream)).responses,
        (attend b s (Frame.filledLines stream)).store⟩ := by
  -- Every turn takes a filled line, so there are turns enough for all of them.
  induction fuel generalizing s stream done with
  | zero => exact absurd enough (Nat.not_lt_zero _)
  | succ fuel ih =>
    rw [serveWithin]
    cases cut : Frame.filledLines stream with
    | nil => simp only [Frame.takeData_end StoreRequest.decode cut, attend, List.append_nil]
    | cons line more =>
      obtain ⟨result, rest⟩ := Frame.takeData_line StoreRequest.decode cut
      rw [cut] at enough fits
      have short := fits line (.head more)
      have left := rest (Frame.content_fits short)
      have later (s : σ) (response : StoreResponse) :=
        ih s (Frame.takeData StoreRequest.decode stream).rest (response :: done)
          (by rw [left]; exact Nat.lt_of_succ_lt_succ enough)
          (by rw [left]; exact fun other listed => fits other (.tail line listed))
      have small := Frame.datum_fits StoreRequest.decode short
      rw [← asked] at small result
      rw [left] at later
      rw [attend]
      cases said : asked line with
      | ok request =>
        rw [said] at result
        simp only [result, Except.map, later, List.reverse_cons, List.append_assoc,
          List.singleton_append]
      | error e =>
        rw [said] at result small
        simp only [result, Except.map]
        cases e with
        | tooLarge => exact absurd rfl small
        | notText fault =>
          simp only [later, List.reverse_cons, List.append_assoc, List.singleton_append]
        | notData fault =>
          simp only [later, List.reverse_cons, List.append_assoc, List.singleton_append]

theorem serveOver_eq (s : σ) {stream : Bytes}
    (fits : ∀ line ∈ Frame.lines stream, line.length ≤ Frame.maxSize) :
    serveOver b s stream = attend b s (Frame.filledLines stream) := by
  rw [serveOver, serveWithin_eq b _ s stream []
    (Nat.lt_succ_of_le (Frame.filledLines_length_le stream))
    (fun line listed => fits line (List.mem_of_mem_filter listed))]
  rfl

inductive Dialogue : σ → List Bytes → List StoreResponse → σ → Prop where
  | done (s : σ) : Dialogue s [] [] s
  | refused {s last : σ} {line : Bytes} {e : FrameFault} {rest : List Bytes}
      {more : List StoreResponse} (said : asked line = .error e)
      (further : Dialogue s rest more last) :
      Dialogue s (line :: rest) (.error e.reason :: more) last
  | answered {s last : σ} {line : Bytes} {request : StoreRequest} {rest : List Bytes}
      {more : List StoreResponse} (said : asked line = .ok request)
      (further : Dialogue (b.respond s request).2 rest more last) :
      Dialogue s (line :: rest) ((b.respond s request).1 :: more) last

variable {b}

theorem Dialogue.length_eq {s last : σ} {lines : List Bytes} {responses : List StoreResponse}
    (dialogue : Dialogue b s lines responses last) : responses.length = lines.length := by
  induction dialogue with
  | done => rfl
  | refused said further ih => rw [List.length_cons, List.length_cons, ih]
  | answered said further ih => rw [List.length_cons, List.length_cons, ih]

variable (b)

theorem attend_dialogue (s : σ) (lines : List Bytes) :
    Dialogue b s lines (attend b s lines).responses (attend b s lines).store := by
  induction lines generalizing s with
  | nil => exact .done s
  | cons line rest ih =>
    rw [attend]
    cases said : asked line with
    | error e => exact .refused said (ih s)
    | ok request => exact .answered said (ih (b.respond s request).2)

theorem attend_alike {σ τ : Type} {b : Backing σ} {c : Backing τ} {related : σ → τ → Prop}
    (alike : ∀ s t request, related s t →
      (b.respond s request).1 = (c.respond t request).1 ∧
        related (b.respond s request).2 (c.respond t request).2)
    {s : σ} {t : τ} (start : related s t) (lines : List Bytes) :
    (attend b s lines).responses = (attend c t lines).responses ∧
      related (attend b s lines).store (attend c t lines).store := by
  induction lines generalizing s t with
  | nil => exact ⟨rfl, start⟩
  | cons line rest ih =>
    rw [attend, attend]
    cases asked line with
    | error e =>
      obtain ⟨responses, stores⟩ := ih start
      exact ⟨congrArg _ responses, stores⟩
    | ok request =>
      obtain ⟨response, after⟩ := alike s t request start
      obtain ⟨responses, stores⟩ := ih after
      simp only [response, responses]
      exact ⟨trivial, stores⟩

end

end Host

namespace Store

def available : Store → Bool
  | .log l => l.available
  | .tables _ => true
  | .remote _ => false

def fitful (up : Nat → Bool) : Backing (Nat × Store) where
  insert | (n, s), r => let (answer, s') := (s.setAvailable (up n)).insert r; (answer, n + 1, s')
  query | (n, s), q => let (answer, s') := (s.setAvailable (up n)).query q; (answer, n + 1, s')

def takenIn (there : Nat → Bool) (requests : List (StoreRequest × Nat)) : List Record :=
  requests.filterMap fun
    | (.insert r, n) => if there n then some r else none
    | (.query _, _) => none

theorem takenIn_cons (there : Nat → Bool) (first : StoreRequest × Nat)
    (rest : List (StoreRequest × Nat)) :
    takenIn there (first :: rest) = takenIn there [first] ++ takenIn there rest := by
  rw [takenIn, takenIn, takenIn, ← List.filterMap_append, List.singleton_append]

def Alike (s s' : Store) : Prop :=
  ∀ up, (s'.setAvailable up).available = (s.setAvailable up).available

section

variable {s : Store} {rs : List Record}

theorem Holds.setAvailable (holds : s.Holds rs) (up : Bool) : (s.setAvailable up).Holds rs := by
  cases holds with
  | log l => exact .log { l with available := up }
  | tables name => exact .tables name rs

theorem Holds.query_eq (holds : s.Holds rs) (q : Query) : (s.query q).2 = s := by
  cases holds with
  | log l => rfl
  | tables name => rfl

theorem Holds.insert_isOk (holds : s.Holds rs) (r : Record) : (s.insert r).1.isOk = s.available := by
  cases holds with
  | log l =>
    cases there : l.available <;>
      simp [Store.insert, LogStore.insert, available, there, Except.isOk, Except.toBool]
  | tables name => rfl

theorem Holds.insert_taken (holds : s.Holds rs) (r : Record) :
    (s.insert r).2.Holds (rs ++ if s.available then [r] else []) := by
  have accepted := holds.insert_isOk r
  cases there : s.available with
  | true =>
    rw [there] at accepted
    exact holds.insert accepted
  | false =>
    rw [there] at accepted
    rw [if_neg Bool.false_ne_true, List.append_nil]
    exact holds.insert_refused accepted

theorem Holds.insert_alike (holds : s.Holds rs) (r : Record) : Alike s (s.insert r).2 := by
  intro up
  cases holds with
  | log l =>
    obtain ⟨l', kept⟩ := IsLog.insert ⟨l, rfl⟩ r
    rw [kept]
    rfl
  | tables name => rfl

theorem Holds.setAvailable_alike (holds : s.Holds rs) (up : Bool) : Alike s (s.setAvailable up) := by
  intro later
  cases holds with
  | log l => rfl
  | tables name => rfl

end

section

variable {up : Nat → Bool} {n : Nat} {s : Store} {rs : List Record}

theorem fitful_respond (holds : s.Holds rs) (request : StoreRequest) :
    ∃ s', ((fitful up).respond (n, s) request).2 = (n + 1, s') ∧ Alike s s' ∧
      s'.Holds (rs ++ takenIn (fun n => (s.setAvailable (up n)).available) [(request, n)]) := by
  have found := holds.setAvailable (up n)
  cases request with
  | insert r =>
    refine ⟨((s.setAvailable (up n)).insert r).2, rfl, ?_, ?_⟩
    · intro later
      rw [found.insert_alike r later, holds.setAvailable_alike (up n) later]
    · have taken := found.insert_taken r
      rw [takenIn, List.filterMap_cons]
      cases there : (s.setAvailable (up n)).available with
      | true => simpa [there] using taken
      | false => simpa [there] using taken
  | query q =>
    refine ⟨s.setAvailable (up n), ?_, holds.setAvailable_alike (up n), ?_⟩
    · exact congrArg (n + 1, ·) (found.query_eq q)
    · simpa [takenIn] using found

theorem attend_fitful (holds : s.Holds rs) (lines : List Bytes) :
    (Host.attend (fitful up) (n, s) lines).store.2.Holds
      (rs ++ takenIn (fun n => (s.setAvailable (up n)).available)
        ((lines.filterMap Host.request?).zipIdx n)) := by
  induction lines generalizing n s rs with
  | nil =>
    rw [takenIn, List.filterMap_nil, List.zipIdx_nil, List.filterMap_nil, List.append_nil]
    exact holds
  | cons line rest ih =>
    rw [Host.attend]
    cases said : Host.asked line with
    | error e =>
      have skipped : Host.request? line = none := by rw [Host.request?, said]; rfl
      rw [List.filterMap_cons_none skipped]
      exact ih holds
    | ok request =>
      have kept : Host.request? line = some request := by rw [Host.request?, said]; rfl
      obtain ⟨s', after, alike, stored⟩ := @fitful_respond up n s rs holds request
      have later := @ih (n + 1) s' _ stored
      have same : (fun n => (s'.setAvailable (up n)).available) =
          fun n => (s.setAvailable (up n)).available := funext fun n => alike (up n)
      rw [same, List.append_assoc, ← takenIn_cons] at later
      rw [List.filterMap_cons_some kept, List.zipIdx_cons]
      simp only [after]
      exact later

end

end Store

namespace Host

theorem attend_steady (l : LogStore) (lines : List Bytes) :
    let found := attend (Store.fitful fun _ => l.available) (0, .log l) lines
    (attend LogStore.backing l lines).responses = found.responses ∧
      found.store.2 = .log (attend LogStore.backing l lines).store := by
  intro found
  let related (l' : LogStore) (s : Nat × Store) : Prop := s.2 = .log l' ∧ l'.available = l.available
  have alike : ∀ l' s request, related l' s →
      (LogStore.backing.respond l' request).1 =
          ((Store.fitful fun _ => l.available).respond s request).1 ∧
        related (LogStore.backing.respond l' request).2
          ((Store.fitful fun _ => l.available).respond s request).2 := by
    rintro l' ⟨n, s⟩ request ⟨rfl, there⟩
    have same : (Store.log l').setAvailable l.available = .log l' := by rw [← there]; rfl
    cases request with
    | query q =>
      simp only [Backing.respond, LogStore.backing, Store.fitful, same]
      exact ⟨rfl, rfl, there⟩
    | insert r =>
      simp only [Backing.respond, LogStore.backing, Store.fitful, same, Store.insert, LogStore.insert]
      cases found : l'.available with
      | true => exact ⟨rfl, rfl, found.symm.trans there⟩
      | false => exact ⟨rfl, rfl, there⟩
  have start : related l (0, .log l) := ⟨rfl, rfl⟩
  obtain ⟨responses, stores⟩ := attend_alike alike start lines
  exact ⟨responses, stores.1⟩

/-- Each filled line is answered in order, and the contents grow by the inserts that find the store
there. -/
theorem inserts_applied_once {store : Store} {old : List Record} (holds : store.Holds old)
    (up : Nat → Bool) (stream : Bytes)
    (fits : ∀ line ∈ Frame.lines stream, line.length ≤ Frame.maxSize) :
    let lines := Frame.filledLines stream
    let served := serveOver (Store.fitful up) (0, store) stream
    let written := served.responses.map fun response => Frame.write response.encode
    let requests := lines.filterMap request?
    Dialogue (Store.fitful up) (0, store) lines served.responses served.store ∧
      Frame.lines written.flatten = written ∧ written.length = lines.length ∧
      served.store.2.Holds
        (old ++ Store.takenIn (fun n => (store.setAvailable (up n)).available) requests.zipIdx) ∧
      ∀ l : LogStore,
        let steady := serveOver (Store.fitful fun _ => l.available) (0, .log l) stream
        (serve l stream).responses = steady.responses ∧
          steady.store.2 = .log (serve l stream).store := by
  intro lines served written requests
  have attended : served = attend (Store.fitful up) (0, store) lines := serveOver_eq _ _ fits
  have dialogue : Dialogue (Store.fitful up) (0, store) lines served.responses served.store := by
    rw [attended]
    exact attend_dialogue _ _ lines
  refine ⟨dialogue, ?_, ?_, ?_, ?_⟩
  · have one := Frame.lines_write (served.responses.map StoreResponse.encode)
    rwa [List.flatMap_map, List.map_map, List.flatMap_def] at one
  · rw [List.length_map, dialogue.length_eq]
  · rw [attended]
    exact Store.attend_fitful holds lines
  · intro l
    rw [serve, serveOver_eq _ _ fits, serveOver_eq _ _ fits]
    exact attend_steady l lines

theorem inserts_applied_once_mixed :
    let change : Transition := ⟨"INT-A1", .red, .green, "manual", none, .epoch⟩
    let insert : Bytes := Frame.write (StoreRequest.insert (.change change)).encode
    let stream := [0xff, Frame.newline] ++ Text.encodeUtf8 " \r\n[]\n" ++ insert ++ insert
    let served := serveOver (Store.fitful (· != 0)) (0, .log { name := "primary" }) stream
    served.responses.length = 4 ∧
      ∃ rs, served.store.2.Holds rs ∧ rs.map Record.change? = [some change] := by
  intro change insert stream served
  obtain ⟨_, _, count, stored, _⟩ := inserts_applied_once (.log { name := "primary" }) (· != 0) stream
    (by decide +kernel)
  have four : (Frame.filledLines stream).length = 4 := by decide +kernel
  rw [List.length_map, four] at count
  exact ⟨count, _, stored, by decide +kernel⟩

end Host

end Signalgrid
