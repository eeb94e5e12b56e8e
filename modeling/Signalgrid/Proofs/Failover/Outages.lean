import Signalgrid.Archive
import Mathlib.Data.List.Basic
import Mathlib.Data.List.Induction

set_option autoImplicit false

namespace Signalgrid

structure Probed where
  ok : Bool
  moment : Instant
deriving DecidableEq

namespace Probed

def trailing (outcomes : List Probed) : Nat := (outcomes.reverse.takeWhile fun o => !o.ok).length

/-- An outage is a run of at least m failures. -/
def changes (m : Nat) (outcomes : List Probed) : List Probed :=
  (List.range outcomes.length).filterMap fun i =>
    if m ≤ trailing (outcomes.take i) ↔ m ≤ trailing (outcomes.take (i + 1)) then none
    else outcomes[i]?

def report? (m : Nat) (outcomes : List Probed) (o : Probed) : Option Shift :=
  if o.ok then if m ≤ trailing outcomes then some .recovered else none
  else if trailing outcomes + 1 = m then some (.failedOver m) else none

section

variable {m : Nat} (outcomes : List Probed) (o : Probed)

theorem trailing_concat :
    trailing (outcomes ++ [o]) = if o.ok then 0 else trailing outcomes + 1 := by
  cases ok : o.ok <;> simp [trailing, ok]

theorem changes_concat :
    changes m (outcomes ++ [o]) =
      changes m outcomes ++
        if m ≤ trailing outcomes ↔ m ≤ trailing (outcomes ++ [o]) then [] else [o] := by
  have whole : (outcomes ++ [o]).take (outcomes.length + 1) = outcomes ++ [o] :=
    List.take_of_length_le (by simp)
  rw [changes, List.length_append, List.length_singleton, List.range_succ, List.filterMap_append]
  congr 1
  · refine List.filterMap_congr fun i listed => ?_
    have inside : i < outcomes.length := List.mem_range.mp listed
    rw [List.getElem?_append_left inside, List.take_append_of_le_length (Nat.le_of_lt inside),
      List.take_append_of_le_length inside]
  · simp only [List.filterMap_cons, List.filterMap_nil, List.take_left, whole,
      List.getElem?_concat_length]
    split_ifs <;> rfl

theorem report_eq {s : Shift} (reported : report? m outcomes o = some s) :
    s = if m ≤ trailing outcomes then .recovered else .failedOver m := by
  unfold report? at reported
  split_ifs at reported with ok long full
  · simpa [long] using reported.symm
  · have short : ¬ m ≤ trailing outcomes := by omega
    simpa [short] using reported.symm

theorem report_isSome (positive : 1 ≤ m) :
    (report? m outcomes o).isSome ↔ ¬ (m ≤ trailing outcomes ↔ m ≤ trailing (outcomes ++ [o])) := by
  rw [trailing_concat]
  cases ok : o.ok with
  | true =>
    simp only [report?, ok, if_true]
    split_ifs with long
    · simp [long]; omega
    · simp [long]; omega
  | false =>
    simp only [report?, ok, Bool.false_eq_true, if_false]
    split_ifs with full
    · simp; omega
    · simp; omega

end

end Probed

namespace Watch

open Probed

def seen (m : Nat) (outcomes : List Probed) : Watch where
  failed := decide (m ≤ trailing outcomes)
  failures := min (trailing outcomes) maxFailures
  lastProbe := outcomes.getLast?.map moment
  since := (changes m outcomes).getLast?.map moment

theorem seen_concat {m : Nat} (outcomes : List Probed) (o : Probed) :
    seen m (outcomes ++ [o]) =
      { failed := decide (m ≤ if o.ok then 0 else trailing outcomes + 1)
        failures := min (if o.ok then 0 else trailing outcomes + 1) maxFailures
        lastProbe := some o.moment
        since :=
          if m ≤ trailing outcomes ↔ m ≤ if o.ok then 0 else trailing outcomes + 1 then
            (seen m outcomes).since
          else some o.moment } := by
  simp only [seen, changes_concat, trailing_concat, List.getLast?_concat, Option.map_some]
  congr 1
  split_ifs <;> simp

theorem observe_seen {m retries : Nat} (atLeast : max 1 retries = m) (bounded : m ≤ maxFailures)
    (outcomes : List Probed) (o : Probed) :
    (seen m outcomes).observe retries o.ok o.moment =
      (seen m (outcomes ++ [o]), report? m outcomes o) := by
  have counted :
      min maxFailures (min (trailing outcomes) maxFailures + 1) =
        min (trailing outcomes + 1) maxFailures := by omega
  rw [seen_concat]
  cases ok : o.ok with
  | true =>
    have never : ¬ m ≤ 0 := by omega
    by_cases long : m ≤ trailing outcomes
    · simp [observe, succeed, report?, seen, ok, long, never]
    · simp [observe, succeed, report?, seen, ok, long, never]
  | false =>
    by_cases long : m ≤ trailing outcomes
    · have past : trailing outcomes + 1 ≠ m := by omega
      have longer : m ≤ trailing outcomes + 1 := by omega
      simp [observe, fail, report?, seen, ok, counted, long, longer, past]
    · by_cases full : trailing outcomes + 1 = m
      · simp [observe, fail, report?, seen, ok, counted, atLeast, long, full, bounded]
      · have short : ¬ m ≤ trailing outcomes + 1 := by omega
        have below : ¬ m ≤ min (trailing outcomes + 1) maxFailures := by omega
        simp [observe, fail, report?, seen, ok, counted, atLeast, long, full, short, below]

end Watch

@[simp] theorem Audit.push_capacity (log : Audit) (x : Alert) : (log.push x).capacity = log.capacity :=
  rfl

theorem Audit.push_latest {log : Audit} {emitted : List Alert} (positive : 0 < log.capacity)
    (latest : log.alerts = emitted.drop (emitted.length - log.capacity)) (x : Alert) :
    (log.push x).alerts = (emitted ++ [x]).drop ((emitted ++ [x]).length - log.capacity) := by
  have held : log.alerts.length = emitted.length - (emitted.length - log.capacity) := by
    rw [latest, List.length_drop]
  rw [push, List.length_append, List.length_singleton, List.drop_append_of_le_length (by omega)]
  by_cases full : log.alerts.length = log.capacity
  · have next : emitted.length - log.capacity + 1 = emitted.length + 1 - log.capacity := by omega
    rw [if_pos full, latest, List.drop_drop, next]
  · have room : emitted.length + 1 - log.capacity = emitted.length - log.capacity := by omega
    rw [if_neg full, latest, room]

namespace Archive

open Probed

def heed (run : List (Instant × Shift) × Archive) (o : Probed) : List (Instant × Shift) × Archive :=
  let (shift, a) := run.2.probe o.ok o.moment
  (run.1 ++ (shift.map fun s => (o.moment, s)).toList, a)

def probes (a : Archive) (outcomes : List Probed) : List (Instant × Shift) × Archive :=
  outcomes.foldl heed ([], a)

def alternating (m n : Nat) : List Shift :=
  (List.range n).map fun i => if i % 2 = 0 then .failedOver m else .recovered

structure Told (m : Nat) (outcomes : List Probed) (reports : List (Instant × Shift)) (a : Archive) :
    Prop where
  retries : max 1 a.retries = m
  watch : a.watch = .seen m outcomes
  moments : reports.map Prod.fst = (changes m outcomes).map moment
  shifts : reports.map Prod.snd = alternating m reports.length
  parity : reports.length % 2 = if m ≤ trailing outcomes then 1 else 0
  capacity : a.audit.capacity = 1024
  alerts :
    a.audit.alerts =
      (reports.map fun x => shiftAlert x.1 x.2).drop (reports.length - a.audit.capacity)
  failovers : a.counters.failovers = (reports.length + 1) / 2
  recoveries : a.counters.recoveries = reports.length / 2

theorem probe_observed {a : Archive} {ok : Bool} {now : Instant} {w : Watch} {shift : Option Shift}
    (observed : a.watch.observe a.retries ok now = (w, shift)) :
    a.probe ok now =
      (shift,
        { a with
          watch := w
          counters := shift.elim (noteProbe ok a.counters) (noteShift (noteProbe ok a.counters))
          audit := shift.elim a.audit fun s => a.audit.push (shiftAlert now s) }) := by
  cases shift <;> simp [probe, observed, count, alert]

theorem noteProbe_shifts (ok : Bool) (c : Counters) :
    (noteProbe ok c).failovers = c.failovers ∧ (noteProbe ok c).recoveries = c.recoveries := by
  cases ok <;> exact ⟨rfl, rfl⟩

theorem alternating_succ (m n : Nat) :
    alternating m (n + 1) = alternating m n ++ [if n % 2 = 0 then .failedOver m else .recovered] := by
  simp [alternating, List.range_succ]

theorem noteShift_next {c : Counters} {m n : Nat} (failovers : c.failovers = (n + 1) / 2)
    (recoveries : c.recoveries = n / 2) {s : Shift}
    (next : s = if n % 2 = 0 then .failedOver m else .recovered) :
    (noteShift c s).failovers = (n + 1 + 1) / 2 ∧ (noteShift c s).recoveries = (n + 1) / 2 := by
  by_cases even : n % 2 = 0
  · rw [next, if_pos even]
    simp only [noteShift, failovers, recoveries]
    omega
  · rw [next, if_neg even]
    simp only [noteShift, failovers, recoveries]
    omega

theorem parity_turned {n : Nat} {before after : Prop} [Decidable before] [Decidable after]
    (turned : ¬ (before ↔ after)) (parity : n % 2 = if before then 1 else 0) :
    (n + 1) % 2 = if after then 1 else 0 := by
  by_cases lasting : before
  · have ended : ¬ after := fun still => turned ⟨fun _ => still, fun _ => lasting⟩
    rw [if_pos lasting] at parity
    rw [if_neg ended]
    omega
  · have begun : after := by
      by_contra short
      exact turned ⟨fun h => absurd h lasting, fun h => absurd h short⟩
    rw [if_neg lasting] at parity
    rw [if_pos begun]
    omega

namespace Told

section

variable {m : Nat} {outcomes : List Probed} {reports : List (Instant × Shift)} {a : Archive}
  (told : Told m outcomes reports a) (bounded : m ≤ Watch.maxFailures) {o : Probed}

include told bounded

theorem probe_report (o : Probed) : (a.probe o.ok o.moment).1 = report? m outcomes o := by
  rw [probe_observed (told.watch ▸ Watch.observe_seen told.retries bounded outcomes o)]

theorem heed_eq :
    heed (reports, a) o =
      (reports ++ ((report? m outcomes o).map fun s => (o.moment, s)).toList,
        { a with
          watch := .seen m (outcomes ++ [o])
          counters :=
            (report? m outcomes o).elim (noteProbe o.ok a.counters)
              (noteShift (noteProbe o.ok a.counters))
          audit :=
            (report? m outcomes o).elim a.audit fun s => a.audit.push (shiftAlert o.moment s) }) := by
  rw [heed, probe_observed (told.watch ▸ Watch.observe_seen told.retries bounded outcomes o)]

theorem quiet (unreported : report? m outcomes o = none) :
    Told m (outcomes ++ [o]) (heed (reports, a) o).1 (heed (reports, a) o).2 := by
  have positive : 1 ≤ m := told.retries ▸ Nat.le_max_left ..
  have stays : m ≤ trailing outcomes ↔ m ≤ trailing (outcomes ++ [o]) := by
    simpa [unreported] using report_isSome outcomes o positive
  have same : changes m (outcomes ++ [o]) = changes m outcomes := by
    rw [changes_concat, if_pos stays, List.append_nil]
  obtain ⟨failovers, recoveries⟩ := noteProbe_shifts o.ok a.counters
  simp only [told.heed_eq bounded, unreported, Option.map_none, Option.toList_none, List.append_nil,
    Option.elim_none]
  exact
    { told with
      watch := rfl
      moments := by rw [same, told.moments]
      parity := by simpa only [stays] using told.parity
      failovers := failovers.trans told.failovers
      recoveries := recoveries.trans told.recoveries }

theorem turn {s : Shift} (reported : report? m outcomes o = some s) :
    Told m (outcomes ++ [o]) (heed (reports, a) o).1 (heed (reports, a) o).2 := by
  have positive : 1 ≤ m := told.retries ▸ Nat.le_max_left ..
  have turned : ¬ (m ≤ trailing outcomes ↔ m ≤ trailing (outcomes ++ [o])) := by
    simpa [reported] using report_isSome outcomes o positive
  have changed : changes m (outcomes ++ [o]) = changes m outcomes ++ [o] := by
    rw [changes_concat, if_neg turned]
  have lasting : m ≤ trailing outcomes ↔ ¬ reports.length % 2 = 0 := by
    have parity := told.parity
    split_ifs at parity with long <;> simp [long, parity]
  have next : s = if reports.length % 2 = 0 then .failedOver m else .recovered := by
    rw [report_eq outcomes o reported]
    simp only [lasting, ite_not]
  obtain ⟨failovers, recoveries⟩ := noteProbe_shifts o.ok a.counters
  have counted := noteShift_next (failovers.trans told.failovers) (recoveries.trans told.recoveries) next
  have held : 0 < a.audit.capacity := by rw [told.capacity]; decide
  have latest := told.alerts
  rw [← List.length_map fun x : Instant × Shift => shiftAlert x.1 x.2] at latest
  simp only [told.heed_eq bounded, reported, Option.map_some, Option.toList_some, Option.elim_some]
  exact
    { told with
      watch := rfl
      moments := by simp [changed, told.moments]
      shifts := by simp [alternating_succ, told.shifts, next]
      parity := by simpa using parity_turned turned told.parity
      alerts := by simpa using Audit.push_latest held latest (shiftAlert o.moment s)
      failovers := by simpa using counted.1
      recoveries := by simpa using counted.2 }

end

theorem step {m : Nat} {outcomes : List Probed} {run : List (Instant × Shift) × Archive}
    (told : Told m outcomes run.1 run.2) (bounded : m ≤ Watch.maxFailures) (o : Probed) :
    Told m (outcomes ++ [o]) (heed run o).1 (heed run o).2 := by
  cases reported : report? m outcomes o with
  | none => exact told.quiet bounded reported
  | some s => exact told.turn bounded reported

end Told

theorem probes_concat (a : Archive) (outcomes : List Probed) (o : Probed) :
    a.probes (outcomes ++ [o]) = heed (a.probes outcomes) o := by
  simp [probes]

theorem probes_told {a : Archive} {m : Nat} (told : Told m [] [] a) (bounded : m ≤ Watch.maxFailures)
    (outcomes : List Probed) : Told m outcomes (a.probes outcomes).1 (a.probes outcomes).2 := by
  -- From the end, since a report depends on all outcomes before it.
  induction outcomes using List.reverseRecOn with
  | nil => exact told
  | append_singleton earlier o ih =>
    rw [probes_concat]
    exact ih.step bounded o

theorem start_told {s : Settings} {replica primary : Store} {a : Archive}
    (ready : start? s replica primary = some a) :
    Told (max 1 s.timings.probeRetries) [] [] a := by
  unfold start? at ready
  split_ifs at ready
  obtain rfl := Option.some.inj ready
  have never : ¬ max 1 s.timings.probeRetries ≤ trailing [] := by simp [trailing]
  exact
    { retries := rfl
      watch := by simp [Watch.seen, trailing, changes]
      moments := rfl
      shifts := rfl
      parity := (if_neg never).symm
      capacity := rfl
      alerts := rfl
      failovers := rfl
      recoveries := rfl }

/-- Failover, reports, alerts and counters in one closed form of the outcomes. -/
theorem outages_told {s : Settings} {replica primary : Store} {a : Archive}
    (ready : start? s replica primary = some a)
    (bounded : s.timings.probeRetries ≤ Watch.maxFailures) (outcomes : List Probed) :
    let m := max 1 s.timings.probeRetries
    let reports := (a.probes outcomes).1
    let b := (a.probes outcomes).2
    b.watch =
        { failed := decide (m ≤ trailing outcomes)
          failures := min (trailing outcomes) Watch.maxFailures
          lastProbe := outcomes.getLast?.map moment
          since := (changes m outcomes).getLast?.map moment } ∧
      (∀ o : Probed,
        (∀ n, (b.probe o.ok o.moment).1 = some (.failedOver n) ↔
          o.ok = false ∧ trailing outcomes + 1 = m ∧ n = m) ∧
        ((b.probe o.ok o.moment).1 = some .recovered ↔ o.ok = true ∧ m ≤ trailing outcomes)) ∧
      reports.map Prod.fst = (changes m outcomes).map moment ∧
      reports.map Prod.snd = alternating m reports.length ∧
      b.audit.alerts =
        (reports.map fun x => shiftAlert x.1 x.2).drop (reports.length - 1024) ∧
      b.counters.failovers = (reports.length + 1) / 2 ∧
      b.counters.recoveries = reports.length / 2 ∧
      b.counters.failovers = b.counters.recoveries + if b.watch.failed then 1 else 0 := by
  intro m reports b
  have limit : m ≤ Watch.maxFailures := Nat.max_le.mpr ⟨by decide, bounded⟩
  have told : Told m outcomes reports b := probes_told (start_told ready) limit outcomes
  refine ⟨told.watch, fun o => ?_, told.moments, told.shifts, ?_, told.failovers, told.recoveries, ?_⟩
  · rw [told.probe_report limit o]
    cases ok : o.ok with
    | true => simp [report?, ok]
    | false => simp [report?, ok, eq_comm]
  · rw [told.alerts, told.capacity]
  · have parity := told.parity
    rw [told.failovers, told.recoveries, told.watch]
    simp only [Watch.seen, decide_eq_true_eq]
    split_ifs at parity ⊢ <;> omega

theorem outages_told_twice :
    ∃ a outcomes,
      start? { timings := { probeRetries := 2 } } (.log { name := "replica" })
        (.log { name := "primary" }) = some a ∧
      outcomes.map ok = [false, false, false, true, false, true, false, false] ∧
      (a.probes outcomes).2.watch =
        { failed := true
          failures := 2
          lastProbe := some (Instant.epoch.after 7)
          since := some (Instant.epoch.after 7) } := by
  let found : List Bool := [false, false, false, true, false, true, false, false]
  let outcomes : List Probed := found.mapIdx fun i ok => ⟨ok, Instant.epoch.after i⟩
  refine ⟨_, outcomes, rfl, rfl, ?_⟩
  exact (outages_told (s := { timings := { probeRetries := 2 } }) rfl (by decide) outcomes).1.trans
    (by decide +kernel)

end Archive

end Signalgrid
