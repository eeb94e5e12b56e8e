import Signalgrid.Proofs.Archive.Routing

set_option autoImplicit false

namespace Signalgrid.Archive

def relog (a : Archive) (log : Audit) : Archive := { a with audit := log }

def replicaAnswers (a : Archive) : Nat := a.counters.replicaWrites + a.counters.replicaFailures

def copies (a : Archive) : Nat :=
  a.counters.primaryWrites + a.counters.primaryFailures + a.counters.primarySkipped + a.queue.length

def isLoss (x : Alert) : Bool := x.kind == "data_loss"

/-- By how much the two sides of the books grow, and which alerts are given. -/
structure Books (f : Archive → Archive) (a : Archive) (replica : Nat) (primary : Int)
    (alerts : List Alert) : Prop where
  replica : (f a).replicaAnswers = a.replicaAnswers + replica
  primary : ((f a).copies : Int) = a.copies + primary
  losses : (f a).counters.replicaFailures = a.counters.replicaFailures + alerts.countP isLoss
  audit : ∀ log, f (a.relog log) = (f a).relog (alerts.foldl Audit.push log)

def under (seen : Watch) (f : Archive → Archive) (a : Archive) : Archive :=
  { f { a with watch := seen } with watch := a.watch }

section

variable {f g : Archive → Archive} {a : Archive} {replica replica' : Nat} {primary primary' : Int}
  {alerts alerts' : List Alert}

theorem Books.congr (books : Books g a replica primary alerts)
    (same : ∀ log, f (a.relog log) = g (a.relog log)) : Books f a replica primary alerts := by
  have here : f a = g a := same a.audit
  constructor
  case replica => rw [here, books.replica]
  case primary => rw [here, books.primary]
  case losses => rw [here, books.losses]
  case audit =>
    intro log
    rw [here, same log, books.audit log]

theorem Books.andThen (first : Books f a replica primary alerts)
    (second : Books g (f a) replica' primary' alerts') :
    Books (fun a => g (f a)) a (replica + replica') (primary + primary') (alerts ++ alerts') where
  replica := by rw [second.replica, first.replica, Nat.add_assoc]
  primary := by rw [second.primary, first.primary, Int.add_assoc]
  losses := by rw [second.losses, first.losses, List.countP_append, Nat.add_assoc]
  audit log := by
    rw [first.audit, second.audit, List.foldl_append]

theorem Books.under {seen : Watch} (books : Books f { a with watch := seen } replica primary alerts) :
    Books (under seen f) a replica primary alerts where
  replica := books.replica
  primary := books.primary
  losses := books.losses
  audit log := congrArg (fun done : Archive => { done with watch := a.watch }) (books.audit log)

theorem Books.aside (counters : (f a).counters = a.counters) (queue : (f a).queue = a.queue)
    (audit : ∀ log, f (a.relog log) = (f a).relog log) : Books f a 0 0 [] where
  replica := by rw [replicaAnswers, counters, replicaAnswers, Nat.add_zero]
  primary := by rw [copies, counters, queue, copies, Int.add_zero]
  losses := by rw [counters, List.countP_nil, Nat.add_zero]
  audit := audit

end

section

variable (a : Archive) (r : Record)

theorem writeReplica_books : ∃ alerts, Books (fun a => (a.writeReplica r).2) a 1 0 alerts := by
  cases inserted : a.replica.insert r with
  | mk answer replica =>
    cases answer with
    | ok u =>
      refine ⟨[], ?_⟩
      constructor
      case replica => simp [writeReplica, inserted, count, replicaAnswers]; omega
      case primary => simp [writeReplica, inserted, count, copies]
      case losses => simp [writeReplica, inserted, count]
      case audit => simp [writeReplica, inserted, count, relog]
    | error e =>
      refine ⟨[lossAlert r e], ?_⟩
      constructor
      case replica => simp [writeReplica, inserted, count, alert, replicaAnswers]; omega
      case primary => simp [writeReplica, inserted, count, alert, copies]
      case losses => simp [writeReplica, inserted, count, alert, isLoss, lossAlert]
      case audit => simp [writeReplica, inserted, count, alert, relog]

theorem skip_books : Books skip a 0 1 [] where
  replica := rfl
  primary := by simp [skip, count, copies]; omega
  losses := rfl
  audit _ := rfl

theorem enqueue_books : Books (fun a => (a.enqueue r).2) a 0 1 [] := by
  cases healthy : a.watch.healthy with
  | false => exact a.skip_books.congr fun log => by simp [enqueue, relog, healthy]
  | true =>
    by_cases room : a.queue.length < a.depth
    · constructor
      case replica => simp [enqueue, healthy, room, replicaAnswers]
      case primary => simp [enqueue, healthy, room, copies]; omega
      case losses => simp [enqueue, healthy, room]
      case audit => simp [enqueue, healthy, room, relog]
    · exact a.skip_books.congr fun log => by simp [enqueue, relog, healthy, room]

theorem deliver_books : Books (fun a => a.deliver r) a 0 1 [] := by
  cases healthy : a.watch.healthy with
  | false => exact a.skip_books.congr fun log => (a.relog log).deliver_failed r healthy
  | true =>
    cases inserted : a.primary.insert r with
    | mk answer primary =>
      cases answer with
      | ok u =>
        constructor
        case replica => simp [deliver, healthy, inserted, count, replicaAnswers]
        case primary => simp [deliver, healthy, inserted, count, copies]; omega
        case losses => simp [deliver, healthy, inserted, count]
        case audit => simp [deliver, healthy, inserted, count, relog]
      | error e =>
        constructor
        case replica => simp [deliver, healthy, inserted, count, replicaAnswers]
        case primary => simp [deliver, healthy, inserted, count, copies]; omega
        case losses => simp [deliver, healthy, inserted, count]
        case audit => simp [deliver, healthy, inserted, count, relog]

theorem take_books {rest : List Record} (queue : a.queue = r :: rest) :
    Books (fun a => { a with queue := rest }) a 0 (-1) [] where
  replica := rfl
  primary := by simp [copies, queue]; omega
  losses := rfl
  audit _ := rfl

theorem record_books : ∃ alerts, Books (fun a => (a.record r).2) a 1 1 alerts := by
  obtain ⟨alerts, written⟩ := a.writeReplica_books r
  exact ⟨alerts ++ [], written.andThen (enqueue_books _ r)⟩

theorem forward_books : Books forward a 0 0 [] := by
  cases queue : a.queue with
  | nil =>
    refine .aside ?_ ?_ ?_
    · simp [forward, queue]
    · simp [forward, queue]
    · intro log
      simp [forward, relog, queue]
  | cons r rest =>
    have done := (a.take_books r queue).andThen (deliver_books { a with queue := rest } r)
    exact done.congr fun log => by simp [forward, relog, queue]

theorem shift_books (now : Instant) (shift : Shift) :
    Books (fun a => (a.count (noteShift · shift)).alert (shiftAlert now shift)) a 0 0
      [shiftAlert now shift] := by
  cases shift with
  | failedOver n => exact ⟨rfl, (Int.add_zero _).symm, rfl, fun _ => rfl⟩
  | recovered => exact ⟨rfl, (Int.add_zero _).symm, rfl, fun _ => rfl⟩

theorem probe_books (ok : Bool) (now : Instant) :
    ∃ alerts, Books (fun a => (a.probe ok now).2) a 0 0 alerts := by
  cases observed : a.watch.observe a.retries ok now with
  | mk watch shift =>
    let noted (a : Archive) : Archive := { a with watch := watch }.count (noteProbe ok)
    have quiet : Books noted a 0 0 [] := by
      cases ok with
      | true => exact ⟨rfl, (Int.add_zero _).symm, rfl, fun _ => rfl⟩
      | false => exact ⟨rfl, (Int.add_zero _).symm, rfl, fun _ => rfl⟩
    cases shift with
    | none => exact ⟨[], quiet.congr fun log => by simp [probe, relog, observed, noted]⟩
    | some shift =>
      have told := quiet.andThen (shift_books (noted a) now shift)
      exact ⟨_, told.congr fun log => by simp [probe, relog, observed, noted]⟩

theorem step_books (x : Step) :
    ∃ alerts, Books (step · x) a x.record?.toList.length x.record?.toList.length alerts := by
  cases x with
  | record r => exact a.record_books r
  | forward => exact ⟨[], a.forward_books⟩
  | probe ok now => exact a.probe_books ok now
  | replica available => exact ⟨[], .aside rfl rfl fun _ => rfl⟩
  | primary available => exact ⟨[], .aside rfl rfl fun _ => rfl⟩

end

structure Desk where
  archive : Archive
  begun : List (Record × Watch) := []
  answered : List (Record × Watch) := []
  carried : Option (Record × Watch) := none

inductive Move where
  | call (r : Record)
  | answer (place : Nat)
  | offer (place : Nat)
  | take
  | deliver
  | whole (x : Step)
  | stores (replica primary : Store)

def Move.record? : Move → Option Record
  | .call r => some r
  | .whole x => x.record?
  | _ => none

namespace Desk

def step (d : Desk) : Move → Desk
  | .call r => { d with begun := d.begun ++ [(r, d.archive.watch)] }
  | .answer place =>
      match d.begun[place]? with
      | none => d
      | some (r, seen) =>
          { d with
            archive := d.archive.under seen fun a => (a.writeReplica r).2
            begun := d.begun.eraseIdx place
            answered := d.answered ++ [(r, seen)] }
  | .offer place =>
      match d.answered[place]? with
      | none => d
      | some (r, seen) =>
          { d with
            archive := d.archive.under seen fun a => (a.enqueue r).2
            answered := d.answered.eraseIdx place }
  | .take =>
      match d.carried, d.archive.queue with
      | none, r :: rest =>
          { d with archive := { d.archive with queue := rest }, carried := some (r, d.archive.watch) }
      | _, _ => d
  | .deliver =>
      match d.carried with
      | none => d
      | some (r, seen) =>
          { d with archive := d.archive.under seen fun a => a.deliver r, carried := none }
  | .whole x => { d with archive := d.archive.step x }
  | .stores replica primary =>
      { d with archive := { d.archive with replica := replica, primary := primary } }

def run (d : Desk) (moves : List Move) : Desk := moves.foldl step d

def relog (d : Desk) (log : Audit) : Desk := { d with archive := d.archive.relog log }

def replicaSide (d : Desk) : Nat := d.archive.replicaAnswers + d.begun.length

def primarySide (d : Desk) : Nat :=
  d.archive.copies + d.begun.length + d.answered.length + d.carried.toList.length

structure Entered (f : Desk → Desk) (d : Desk) (calls : Nat) (alerts : List Alert) : Prop where
  replica : (f d).replicaSide = d.replicaSide + calls
  primary : (f d).primarySide = d.primarySide + calls
  losses : (f d).archive.counters.replicaFailures =
    d.archive.counters.replicaFailures + alerts.countP isLoss
  audit : ∀ log, f (d.relog log) = (f d).relog (alerts.foldl Audit.push log)

section

variable {f g : Desk → Desk} {d : Desk} {calls calls' : Nat} {alerts alerts' : List Alert}

theorem Entered.andThen (first : Entered f d calls alerts) (second : Entered g (f d) calls' alerts') :
    Entered (fun d => g (f d)) d (calls + calls') (alerts ++ alerts') where
  replica := by rw [second.replica, first.replica, Nat.add_assoc]
  primary := by rw [second.primary, first.primary, Nat.add_assoc]
  losses := by rw [second.losses, first.losses, List.countP_append, Nat.add_assoc]
  audit log := by rw [first.audit, second.audit, List.foldl_append]

theorem Entered.idle (same : ∀ log, f (d.relog log) = d.relog log) : Entered f d 0 [] := by
  have here : f d = d := same d.archive.audit
  exact ⟨by rw [here]; rfl, by rw [here]; rfl, by rw [here]; rfl, fun log => by rw [here, same]; rfl⟩

theorem Entered.of_books {work : Archive → Archive} {replica : Nat} {primary : Int}
    {begun answered : List (Record × Watch)} {carried : Option (Record × Watch)}
    (books : Books work d.archive replica primary alerts)
    (shape : ∀ log, f (d.relog log) = ⟨work (d.archive.relog log), begun, answered, carried⟩)
    (onReplica : replica + begun.length = d.begun.length + calls)
    (onPrimary : primary + begun.length + answered.length + carried.toList.length =
      d.begun.length + d.answered.length + d.carried.toList.length + calls) :
    Entered f d calls alerts := by
  have here : f d = ⟨work d.archive, begun, answered, carried⟩ := shape d.archive.audit
  have replica := books.replica
  have primary := books.primary
  constructor
  case replica =>
    simp only [here, replicaSide]
    omega
  case primary =>
    simp only [here, primarySide]
    omega
  case losses => rw [here, books.losses]
  case audit =>
    intro log
    rw [here, shape, books.audit]
    rfl

end

theorem step_entered (d : Desk) (m : Move) :
    ∃ alerts, Entered (step · m) d m.record?.toList.length alerts := by
  cases m with
  | call r =>
    have books : Books (fun a => a) d.archive 0 0 [] := .aside rfl rfl fun _ => rfl
    have shape : ∀ log, (d.relog log).step (.call r) =
        ⟨d.archive.relog log, d.begun ++ [(r, d.archive.watch)], d.answered, d.carried⟩ := fun _ => rfl
    refine ⟨[], .of_books books shape ?_ ?_⟩
    · simp [Move.record?]
    · simp [Move.record?]
      omega
  | answer place =>
    cases found : d.begun[place]? with
    | none => exact ⟨[], .idle fun log => by simp [step, relog, found]⟩
    | some entry =>
      obtain ⟨r, seen⟩ := entry
      obtain ⟨inside, _⟩ := List.getElem?_eq_some_iff.mp found
      obtain ⟨alerts, books⟩ := writeReplica_books { d.archive with watch := seen } r
      refine ⟨alerts, .of_books books.under (fun log => by simp only [step, relog, found]; rfl) ?_ ?_⟩
      · simp [Move.record?, List.length_eraseIdx, inside]
        omega
      · simp [Move.record?, List.length_eraseIdx, inside]
        omega
  | offer place =>
    cases found : d.answered[place]? with
    | none => exact ⟨[], .idle fun log => by simp [step, relog, found]⟩
    | some entry =>
      obtain ⟨r, seen⟩ := entry
      obtain ⟨inside, _⟩ := List.getElem?_eq_some_iff.mp found
      have books := enqueue_books { d.archive with watch := seen } r
      refine ⟨[], .of_books books.under (fun log => by simp only [step, relog, found]; rfl) ?_ ?_⟩
      · simp [Move.record?]
      · simp [Move.record?, List.length_eraseIdx, inside]
        omega
  | take =>
    cases carried : d.carried with
    | some entry => exact ⟨[], .idle fun log => by simp [step, relog, carried]⟩
    | none =>
      cases queue : d.archive.queue with
      | nil => exact ⟨[], .idle fun log => by simp [step, relog, Archive.relog, carried, queue]⟩
      | cons r rest =>
        have books := d.archive.take_books r queue
        refine ⟨[], .of_books books
          (fun log => by simp only [step, relog, Archive.relog, carried, queue]; rfl) ?_ ?_⟩
        · simp [Move.record?]
        · simp [Move.record?, carried]
          omega
  | deliver =>
    cases carried : d.carried with
    | none => exact ⟨[], .idle fun log => by simp [step, relog, carried]⟩
    | some entry =>
      obtain ⟨r, seen⟩ := entry
      have books := deliver_books { d.archive with watch := seen } r
      refine ⟨[], .of_books books.under (fun log => by simp only [step, relog, carried]; rfl) ?_ ?_⟩
      · simp [Move.record?]
      · simp [Move.record?, carried]
        omega
  | whole x =>
    obtain ⟨alerts, books⟩ := d.archive.step_books x
    have shape : ∀ log, (d.relog log).step (.whole x) =
        ⟨(d.archive.relog log).step x, d.begun, d.answered, d.carried⟩ := fun _ => rfl
    refine ⟨alerts, .of_books books shape ?_ ?_⟩
    · rw [Move.record?, Nat.add_comm]
    · rw [Move.record?]
      omega
  | stores replica primary =>
    have books : Books (fun a => { a with replica := replica, primary := primary }) d.archive 0 0 [] :=
      .aside rfl rfl fun _ => rfl
    exact ⟨[], .of_books books (fun _ => rfl) (by simp [Move.record?]) (by simp [Move.record?])⟩

theorem run_entered (d : Desk) (moves : List Move) :
    ∃ alerts, Entered (run · moves) d (moves.filterMap Move.record?).length alerts := by
  induction moves generalizing d with
  | nil => exact ⟨[], .idle fun _ => rfl⟩
  | cons m rest ih =>
    -- What one move enters and what the rest enters add up, alerts in that order.
    obtain ⟨alerts, first⟩ := d.step_entered m
    obtain ⟨alerts', later⟩ := ih (d.step m)
    have calls : ((m :: rest).filterMap Move.record?).length =
        m.record?.toList.length + (rest.filterMap Move.record?).length := by
      rw [List.filterMap_cons]
      cases m.record? with
      | none => simp
      | some r => simp [Nat.add_comm]
    rw [calls]
    exact ⟨alerts ++ alerts', first.andThen later⟩

theorem run_whole (a : Archive) (steps : List Step) :
    run { archive := a } (steps.map .whole) = { archive := a.run steps } := by
  induction steps generalizing a with
  | nil => rfl
  | cons x rest ih => exact ih (a.step x)

end Desk

/-- The books balance, however calls, forwarding, failovers and failures of the stores come together. -/
theorem books_balance {s : Settings} {replica primary : Store} {a : Archive}
    (ready : start? s replica primary = some a) (moves : List Move) :
    let start : Desk := { archive := a }
    let d := start.run moves
    let c := d.archive.counters
    let calls := (moves.filterMap Move.record?).length
    calls = c.replicaWrites + c.replicaFailures + d.begun.length ∧
      calls = c.primaryWrites + c.primaryFailures + c.primarySkipped + d.archive.queue.length +
        (d.begun.length + d.answered.length + d.carried.toList.length) ∧
      (∃ alerts : List Alert,
        (∀ log, (start.relog log).run moves = d.relog (alerts.foldl Audit.push log)) ∧
          alerts.countP isLoss = c.replicaFailures) ∧
      ∀ steps, moves = steps.map .whole → d = { archive := a.run steps } := by
  intro start d c calls
  unfold start? at ready
  split at ready
  next =>
    cases ready
    obtain ⟨alerts, entered⟩ := start.run_entered moves
    have replicaSide : d.replicaSide = calls := by
      rw [entered.replica]
      exact Nat.zero_add calls
    have primarySide : d.primarySide = calls := by
      rw [entered.primary]
      exact Nat.zero_add calls
    have losses : c.replicaFailures = alerts.countP isLoss := by
      rw [entered.losses]
      exact Nat.zero_add _
    refine ⟨replicaSide.symm, ?_, ⟨alerts, entered.audit, losses.symm⟩, ?_⟩
    · rw [← primarySide, Desk.primarySide, copies]
      simp only [c, Nat.add_assoc]
    · rintro steps rfl
      exact Desk.run_whole _ steps
  next => cases ready

theorem books_balance_through_failover :
    let flip (id : IntersectionId) : Record := .change ⟨id, .red, .green, "cycle", none, .epoch⟩
    let moves : List Move :=
      [.call (flip "INT-A1"), .whole (.probe false .epoch), .whole (.replica false), .answer 0, .offer 0,
        .whole (.record (flip "INT-B1")), .whole (.replica true), .whole (.record (flip "INT-C1")), .take]
    ∃ a, start? { timings := { probeRetries := 1 } } (.log { name := "replica" })
        (.log { name := "primary" }) = some a ∧
      let d := Desk.run { archive := a } moves
      let c := d.archive.counters
      3 = c.replicaWrites + c.replicaFailures + d.begun.length ∧
        3 = c.primaryWrites + c.primaryFailures + c.primarySkipped + d.archive.queue.length +
          (d.begun.length + d.answered.length + d.carried.toList.length) ∧
        c.replicaFailures = 2 ∧ c.primarySkipped = 2 ∧ d.carried.isSome = true := by
  intro flip moves
  refine ⟨_, rfl, ?_⟩
  obtain ⟨stored, offered, _⟩ := @books_balance { timings := { probeRetries := 1 } }
    (.log { name := "replica" }) (.log { name := "primary" }) _ rfl moves
  exact ⟨stored, offered, by decide +kernel, by decide +kernel, by decide +kernel⟩

end Signalgrid.Archive
