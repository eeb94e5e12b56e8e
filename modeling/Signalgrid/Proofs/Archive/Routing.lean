import Signalgrid.Archive
import Mathlib.Data.List.Forall2

set_option autoImplicit false

namespace Signalgrid

namespace Store

def IsLog (s : Store) : Prop := ∃ l, s = .log l

def contents (s : Store) : List Record := (s.log?.map LogStore.records).getD []

@[simp] theorem contents_log (l : LogStore) : (Store.log l).contents = l.records := rfl

@[simp] theorem setAvailable_contents (s : Store) (available : Bool) :
    (s.setAvailable available).contents = s.contents := by
  cases s <;> rfl

theorem IsLog.setAvailable {s : Store} (log : s.IsLog) (available : Bool) :
    (s.setAvailable available).IsLog := by
  obtain ⟨l, rfl⟩ := log
  exact ⟨_, rfl⟩

theorem IsLog.insert {s : Store} (log : s.IsLog) (r : Record) : (s.insert r).2.IsLog := by
  obtain ⟨l, rfl⟩ := log
  simp only [Store.insert]
  split
  · exact ⟨_, rfl⟩
  · exact ⟨_, rfl⟩

theorem IsLog.insert_contents {s : Store} (log : s.IsLog) (r : Record) :
    (s.insert r).2.contents = s.contents ++ if (s.insert r).1.isOk then [r] else [] := by
  obtain ⟨l, rfl⟩ := log
  simp only [Store.insert, LogStore.insert]
  by_cases available : l.available
  · simp [available, Except.isOk, Except.toBool]
  · simp [available, Except.isOk, Except.toBool]

end Store

namespace Archive

inductive Step where
  | record (r : Record)
  | forward
  | probe (ok : Bool) (now : Instant)
  | replica (available : Bool)
  | primary (available : Bool)

def Step.record? : Step → Option Record
  | .record r => some r
  | _ => none

def step (a : Archive) : Step → Archive
  | .record r => (a.record r).2
  | .forward => a.forward
  | .probe ok now => (a.probe ok now).2
  | .replica available => { a with replica := a.replica.setAvailable available }
  | .primary available => { a with primary := a.primary.setAvailable available }

def run (a : Archive) (steps : List Step) : Archive := steps.foldl step a

def attempts (a : Archive) : Nat := a.counters.primaryWrites + a.counters.primaryFailures

section

variable (a : Archive) (r : Record)

def route (a : Archive) : PrimaryRoute :=
  if a.watch.healthy then if a.queue.length < a.depth then .queued else .dropped else .skipped

theorem route_queued {a : Archive} (queued : a.route = .queued) : a.watch.healthy = true := by
  unfold route at queued
  split at queued
  next healthy => exact healthy
  next => cases queued

theorem writeReplica_eq :
    (a.writeReplica r).1 = (a.replica.insert r).1 ∧
      (a.writeReplica r).2.replica = (a.replica.insert r).2 ∧
      (a.writeReplica r).2.primary = a.primary ∧ (a.writeReplica r).2.queue = a.queue ∧
      (a.writeReplica r).2.watch = a.watch ∧ (a.writeReplica r).2.depth = a.depth ∧
      (a.writeReplica r).2.attempts = a.attempts := by
  cases inserted : a.replica.insert r with
  | mk answer replica => cases answer <;> simp [writeReplica, inserted, count, alert, attempts]

theorem enqueue_eq :
    (a.enqueue r).1 = a.route ∧ (a.enqueue r).2.replica = a.replica ∧
      (a.enqueue r).2.primary = a.primary ∧
      (a.enqueue r).2.queue = (if a.route = .queued then a.queue ++ [r] else a.queue) ∧
      (a.enqueue r).2.watch = a.watch ∧ (a.enqueue r).2.attempts = a.attempts := by
  cases healthy : a.watch.healthy with
  | false => simp [enqueue, route, healthy, skip, count, attempts]
  | true =>
    by_cases room : a.queue.length < a.depth
    · simp [enqueue, route, healthy, room, attempts]
    · simp [enqueue, route, healthy, room, skip, count, attempts]

theorem record_eq :
    (a.record r).1 = ⟨(a.replica.insert r).1, a.route⟩ ∧
      (a.record r).2.replica = (a.replica.insert r).2 ∧ (a.record r).2.primary = a.primary ∧
      (a.record r).2.queue = (if a.route = .queued then a.queue ++ [r] else a.queue) ∧
      (a.record r).2.watch = a.watch ∧ (a.record r).2.attempts = a.attempts := by
  obtain ⟨answer, replica, primary, queue, watch, depth, attempts⟩ := a.writeReplica_eq r
  obtain ⟨route', replica', primary', queue', watch', attempts'⟩ := (a.writeReplica r).2.enqueue_eq r
  have same : (a.writeReplica r).2.route = a.route := by rw [route, route, watch, queue, depth]
  rw [same] at route' queue'
  refine ⟨?_, replica'.trans replica, primary'.trans primary, ?_, watch'.trans watch,
    attempts'.trans attempts⟩
  · rw [← answer, ← route']
    rfl
  · rw [← queue]
    exact queue'

theorem record_counters :
    ∃ writes failures skipped, (a.record r).2.counters =
      { a.counters with
        replicaWrites := writes, replicaFailures := failures, primarySkipped := skipped } := by
  have replica : ∃ writes failures, (a.writeReplica r).2.counters =
      { a.counters with replicaWrites := writes, replicaFailures := failures } := by
    cases inserted : a.replica.insert r with
    | mk answer replica =>
      simp only [writeReplica, inserted]
      cases answer <;> exact ⟨_, _, rfl⟩
  obtain ⟨writes, failures, counters⟩ := replica
  have queued : ∃ skipped, ((a.writeReplica r).2.enqueue r).2.counters =
      { (a.writeReplica r).2.counters with primarySkipped := skipped } := by
    unfold enqueue
    split
    · exact ⟨_, rfl⟩
    · split <;> exact ⟨_, rfl⟩
  obtain ⟨skipped, counters'⟩ := queued
  exact ⟨writes, failures, skipped, by rw [counters] at counters'; exact counters'⟩

theorem recordAll_counters (rs : List Record) :
    ∃ writes failures skipped, (a.recordAll rs).counters =
      { a.counters with
        replicaWrites := writes, replicaFailures := failures, primarySkipped := skipped } := by
  induction rs generalizing a with
  | nil => exact ⟨_, _, _, rfl⟩
  | cons r rest ih =>
    obtain ⟨_, _, _, first⟩ := a.record_counters r
    obtain ⟨writes, failures, skipped, counters⟩ := ih (a.record r).2
    rw [first] at counters
    exact ⟨writes, failures, skipped, counters⟩

theorem deliver_failed (failed : a.watch.healthy = false) : a.deliver r = a.skip := by
  simp [deliver, failed]

theorem deliver_healthy (healthy : a.watch.healthy = true) :
    (a.deliver r).primary = (a.primary.insert r).2 ∧ (a.deliver r).replica = a.replica ∧
      (a.deliver r).queue = a.queue ∧ (a.deliver r).watch = a.watch := by
  cases inserted : a.primary.insert r with
  | mk answer primary => cases answer <;> simp [deliver, healthy, inserted, count]

theorem forward_cases (log : a.primary.IsLog) :
    (a.queue = [] ∧ a.forward = a) ∨
      ∃ r rest, a.queue = r :: rest ∧ a.forward.queue = rest ∧ a.forward.replica = a.replica ∧
        a.forward.primary.IsLog ∧
        (a.forward.primary.contents = a.primary.contents ∨
          a.forward.primary.contents = a.primary.contents ++ [r]) := by
  cases queue : a.queue with
  | nil => exact .inl ⟨rfl, by simp [forward, queue]⟩
  | cons r rest =>
    have forwarded : a.forward = deliver { a with queue := rest } r := by simp [forward, queue]
    refine .inr ⟨r, rest, rfl, ?_⟩
    rw [forwarded]
    cases healthy : a.watch.healthy with
    | false =>
      rw [deliver_failed { a with queue := rest } r healthy]
      exact ⟨rfl, rfl, log, .inl rfl⟩
    | true =>
      obtain ⟨primary, replica, kept, _⟩ := deliver_healthy { a with queue := rest } r healthy
      rw [primary, replica, kept, log.insert_contents]
      refine ⟨rfl, rfl, log.insert r, ?_⟩
      split
      next => exact .inr rfl
      next => exact .inl (List.append_nil _)

theorem probe_eq (ok : Bool) (now : Instant) :
    (a.probe ok now).2.replica = a.replica ∧ (a.probe ok now).2.primary = a.primary ∧
      (a.probe ok now).2.queue = a.queue ∧ (a.probe ok now).2.attempts = a.attempts := by
  have counted : ∀ (shift : Shift) (c : Counters),
      (noteShift c shift).primaryWrites + (noteShift c shift).primaryFailures =
        c.primaryWrites + c.primaryFailures := by
    intro shift c
    cases shift <;> rfl
  unfold probe
  cases a.watch.observe a.retries ok now with
  | mk watch shift =>
    cases shift with
    | none => cases ok <;> simp [count, noteProbe, attempts]
    | some shift => cases ok <;> simp [count, alert, noteProbe, attempts, counted]

end

theorem step_failed {a : Archive} (failed : a.watch.healthy = false) (x : Step) :
    (a.step x).primary.contents = a.primary.contents ∧ (a.step x).attempts = a.attempts := by
  cases x with
  | record r =>
    obtain ⟨_, _, primary, _, _, attempts⟩ := a.record_eq r
    exact ⟨by rw [step, primary], attempts⟩
  | forward =>
    simp only [step, forward]
    split
    next => exact ⟨rfl, rfl⟩
    next r rest _ =>
      rw [deliver_failed { a with queue := rest } r failed]
      exact ⟨rfl, rfl⟩
  | probe ok now =>
    obtain ⟨_, primary, _, attempts⟩ := a.probe_eq ok now
    exact ⟨by rw [step, primary], attempts⟩
  | replica available => exact ⟨rfl, rfl⟩
  | primary available => exact ⟨a.primary.setAvailable_contents available, rfl⟩

structure Call where
  record : Record
  healthy : Bool
  outcome : RecordOutcome

def Call.stored (c : Call) : Bool := c.outcome.replica.isOk

def Call.queued (c : Call) : Bool := c.outcome.primary = .queued

def calls : Archive → List Step → List Call
  | _, [] => []
  | a, .record r :: rest => ⟨r, a.watch.healthy, (a.record r).1⟩ :: calls (a.step (.record r)) rest
  | a, x :: rest => calls (a.step x) rest

theorem calls_record (a : Archive) (steps : List Step) :
    (a.calls steps).map Call.record = steps.filterMap Step.record? := by
  induction steps generalizing a with
  | nil => rfl
  | cons x rest ih => cases x <;> simp [calls, Step.record?, List.filterMap_cons, ih]

structure Trace where
  archive : Archive
  calls : List Call := []
  -- Whose copies are queued, in order.
  waiting : List Nat := []
  -- Whose copies the primary has taken in, in order.
  landed : List Nat := []

namespace Trace

def step (t : Trace) : Step → Trace
  | .record r =>
      let (outcome, archive) := t.archive.record r
      { t with
        archive := archive
        calls := t.calls ++ [⟨r, t.archive.watch.healthy, outcome⟩]
        waiting := if outcome.primary = .queued then t.waiting ++ [t.calls.length] else t.waiting }
  | .forward =>
      let archive := t.archive.forward
      -- The copy at the head of the queue lands if the primary has grown.
      let taken := archive.primary.contents.length ≠ t.archive.primary.contents.length
      { t with
        archive := archive
        waiting := t.waiting.tail
        landed := if taken then t.landed ++ t.waiting.head?.toList else t.landed }
  | x => { t with archive := t.archive.step x }

def run (t : Trace) (steps : List Step) : Trace := steps.foldl step t

theorem step_archive (t : Trace) (x : Step) : (t.step x).archive = t.archive.step x := by
  cases x <;> rfl

theorem run_archive (t : Trace) (steps : List Step) :
    (t.run steps).archive = t.archive.run steps := by
  induction steps generalizing t with
  | nil => rfl
  | cons x rest ih =>
    refine (ih (t.step x)).trans ?_
    rw [step_archive]
    rfl

def Copies (calls : List Call) (place : Nat) (r : Record) : Prop :=
  ∃ call, calls[place]? = some call ∧ call.record = r ∧ call.healthy = true ∧ call.queued = true

theorem Copies.more {calls : List Call} {place : Nat} {r : Record} (copies : Copies calls place r)
    (later : List Call) : Copies (calls ++ later) place r := by
  obtain ⟨call, found, rest⟩ := copies
  refine ⟨call, ?_, rest⟩
  rw [List.getElem?_append_left (List.getElem?_eq_some_iff.mp found).1]
  exact found

theorem Copies.lt {calls : List Call} {place : Nat} {r : Record} (copies : Copies calls place r) :
    place < calls.length := by
  obtain ⟨call, found, _⟩ := copies
  exact (List.getElem?_eq_some_iff.mp found).1

structure Routed (t : Trace) : Prop where
  replicaLog : t.archive.replica.IsLog
  primaryLog : t.archive.primary.IsLog
  stored : t.archive.replica.contents = (t.calls.filter Call.stored).map Call.record
  waiting : List.Forall₂ (Copies t.calls) t.waiting t.archive.queue
  landed : List.Forall₂ (Copies t.calls) t.landed t.archive.primary.contents
  -- Copies land in the order of their calls, and each once.
  order : (t.landed ++ t.waiting).Pairwise (· < ·)
  subsequence : (t.archive.primary.contents ++ t.archive.queue).Sublist
    ((t.calls.filter Call.queued).map Call.record)

theorem copies_more {calls : List Call} {places : List Nat} {rs : List Record}
    (copies : List.Forall₂ (Copies calls) places rs) (later : List Call) :
    List.Forall₂ (Copies (calls ++ later)) places rs :=
  copies.imp fun _ _ copy => copy.more later

theorem copies_lt {calls : List Call} {places : List Nat} {rs : List Record}
    (copies : List.Forall₂ (Copies calls) places rs) : ∀ place ∈ places, place < calls.length := by
  induction copies with
  | nil => simp
  | cons first _ ih => exact List.forall_mem_cons.mpr ⟨first.lt, ih⟩

section

variable {t : Trace} (routed : t.Routed)

include routed

theorem record_routed (r : Record) : (t.step (.record r)).Routed := by
  obtain ⟨outcome, replica, primary, queue, _, _⟩ := t.archive.record_eq r
  have earlier : ∀ place ∈ t.landed ++ t.waiting, place < t.calls.length :=
    List.forall_mem_append.mpr ⟨copies_lt routed.landed, copies_lt routed.waiting⟩
  constructor
  case replicaLog =>
    simp only [step, replica]
    exact routed.replicaLog.insert r
  case primaryLog =>
    simp only [step, primary]
    exact routed.primaryLog
  case stored =>
    simp only [step, replica, routed.replicaLog.insert_contents, routed.stored, List.filter_append,
      List.map_append, outcome, List.filter_singleton, Call.stored]
    cases (t.archive.replica.insert r).1.isOk <;> rfl
  case waiting =>
    simp only [step, queue, outcome]
    by_cases queued : t.archive.route = .queued
    · simp only [queued, if_true]
      -- The copy that joins the queue is that of the call just made.
      refine List.rel_append (copies_more routed.waiting _) (.cons ?_ .nil)
      exact ⟨_, List.getElem?_concat_length, rfl, route_queued queued, by simp [Call.queued]⟩
    · simp only [queued, if_false]
      exact copies_more routed.waiting _
  case landed =>
    simp only [step, primary]
    exact copies_more routed.landed _
  case order =>
    simp only [step, outcome]
    split
    · rw [← List.append_assoc, List.pairwise_append]
      refine ⟨routed.order, by simp, ?_⟩
      intro place member last same
      rw [List.mem_singleton.mp same]
      exact earlier place member
    · exact routed.order
  case subsequence =>
    simp only [step, primary, queue, outcome, List.filter_append, List.map_append,
      List.filter_singleton, Call.queued]
    by_cases queued : t.archive.route = .queued
    · simp only [queued, if_true, decide_true, cond_true, ← List.append_assoc]
      exact routed.subsequence.append (List.Sublist.refl _)
    · simp only [queued, if_false, decide_false, cond_false, List.map_nil, List.append_nil]
      exact routed.subsequence

section

variable {place : Nat} {places : List Nat} {r : Record} {rest : List Record} {a : Archive}
  (waiting : t.waiting = place :: places) (queue : t.archive.queue = r :: rest)
  (replica' : a.replica = t.archive.replica) (primaryLog' : a.primary.IsLog) (queue' : a.queue = rest)

include waiting queue replica' primaryLog' queue'

theorem lost_routed (same : a.primary.contents = t.archive.primary.contents) :
    ({ t with archive := a, waiting := places } : Trace).Routed := by
  have copies := routed.waiting
  have order := routed.order
  have subsequence := routed.subsequence
  rw [waiting] at copies order
  rw [queue] at copies subsequence
  cases copies with
  | cons first later =>
    constructor
    case replicaLog => exact replica' ▸ routed.replicaLog
    case primaryLog => exact primaryLog'
    case stored => exact (congrArg Store.contents replica').trans routed.stored
    case waiting => exact queue' ▸ later
    case landed => exact same ▸ routed.landed
    case order => exact order.sublist ((List.Sublist.refl _).append (List.sublist_cons_self place places))
    case subsequence =>
      simp only [same, queue']
      exact ((List.Sublist.refl _).append (List.sublist_cons_self r rest)).trans subsequence

theorem taken_routed (grown : a.primary.contents = t.archive.primary.contents ++ [r]) :
    ({ t with archive := a, waiting := places, landed := t.landed ++ [place] } : Trace).Routed := by
  have copies := routed.waiting
  have order := routed.order
  have subsequence := routed.subsequence
  rw [waiting] at copies order
  rw [queue] at copies subsequence
  cases copies with
  | cons first later =>
    constructor
    case replicaLog => exact replica' ▸ routed.replicaLog
    case primaryLog => exact primaryLog'
    case stored => exact (congrArg Store.contents replica').trans routed.stored
    case waiting => exact queue' ▸ later
    case landed => exact grown ▸ List.rel_append routed.landed (.cons first .nil)
    case order => simpa using order
    case subsequence =>
      simp only [grown, queue']
      simpa using subsequence

end

theorem forward_routed : (t.step .forward).Routed := by
  have copies := routed.waiting
  rcases t.archive.forward_cases routed.primaryLog with
    ⟨empty, idle⟩ | ⟨r, rest, queue, queue', replica', primaryLog', contents⟩
  · have none : t.waiting = [] := by
      rw [empty] at copies
      exact List.forall₂_nil_right_iff.mp copies
    have same : t.step .forward = t := by
      simp only [step, idle, none, List.tail_nil, ne_eq, not_true_eq_false, if_false]
      rw [← none]
    rw [same]
    exact routed
  · obtain ⟨place, places, _, _, waiting⟩ := List.forall₂_cons_right_iff.mp (queue ▸ copies)
    rcases contents with same | grown
    · have lost := lost_routed routed waiting queue replica' primaryLog' queue' same
      simpa [step, same, waiting] using lost
    · have taken := taken_routed routed waiting queue replica' primaryLog' queue' grown
      simpa [step, grown, waiting] using taken

theorem frame_routed {a : Archive} (replicaLog' : a.replica.IsLog) (primaryLog' : a.primary.IsLog)
    (replica' : a.replica.contents = t.archive.replica.contents)
    (primary' : a.primary.contents = t.archive.primary.contents) (queue' : a.queue = t.archive.queue) :
    ({ t with archive := a } : Trace).Routed where
  replicaLog := replicaLog'
  primaryLog := primaryLog'
  stored := replica'.trans routed.stored
  waiting := queue' ▸ routed.waiting
  landed := primary' ▸ routed.landed
  order := routed.order
  subsequence := by
    simp only [primary', queue']
    exact routed.subsequence

theorem step_routed (x : Step) : (t.step x).Routed := by
  cases x with
  | record r => exact record_routed routed r
  | forward => exact forward_routed routed
  | probe ok now =>
    obtain ⟨replica, primary, queue, _⟩ := t.archive.probe_eq ok now
    refine frame_routed routed ?_ ?_ (by rw [Archive.step, replica]) (by rw [Archive.step, primary]) queue
    · rw [Archive.step, replica]
      exact routed.replicaLog
    · rw [Archive.step, primary]
      exact routed.primaryLog
  | replica available =>
    exact frame_routed routed (routed.replicaLog.setAvailable available) routed.primaryLog
      (Store.setAvailable_contents _ available) rfl rfl
  | primary available =>
    exact frame_routed routed routed.replicaLog (routed.primaryLog.setAvailable available) rfl
      (Store.setAvailable_contents _ available) rfl

theorem run_routed (steps : List Step) : (t.run steps).Routed := by
  induction steps generalizing t with
  | nil => exact routed
  | cons x rest ih => exact ih (step_routed routed x)

end

def start (a : Archive) : Trace := { archive := a }

theorem run_calls (t : Trace) (steps : List Step) :
    (t.run steps).calls = t.calls ++ t.archive.calls steps := by
  induction steps generalizing t with
  | nil => simp [run, Archive.calls]
  | cons x rest ih =>
    refine (ih (t.step x)).trans ?_
    rw [step_archive]
    cases x <;> simp [step, Archive.calls]

end Trace

theorem start?_routed {s : Settings} {replica primary : LogStore} (emptyReplica : replica.records = [])
    (emptyPrimary : primary.records = []) {a : Archive}
    (ready : start? s (.log replica) (.log primary) = some a) : (Trace.start a).Routed := by
  unfold start? at ready
  split at ready
  next =>
    cases ready
    constructor
    case replicaLog => exact ⟨replica, rfl⟩
    case primaryLog => exact ⟨primary, rfl⟩
    case stored => exact emptyReplica
    case waiting => exact .nil
    case landed => simp [Trace.start, emptyPrimary]
    case order => exact .nil
    case subsequence => simp [Trace.start, emptyPrimary]
  next => cases ready

end Archive

end Signalgrid
