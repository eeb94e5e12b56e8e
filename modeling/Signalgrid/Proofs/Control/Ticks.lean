import Signalgrid.Control.Signal
import Signalgrid.Proofs.Time.Moments
import Mathlib.Tactic.Linarith

set_option autoImplicit false

namespace Signalgrid

def Color.turned (phases : Int) (c : Color) : Color := if phases % 2 = 0 then c else c.flip

theorem Color.turned_add (first second : Int) (c : Color) :
    c.turned (first + second) = (c.turned first).turned second := by
  unfold Color.turned
  have parity : (first + second) % 2 = 0 ↔ (first % 2 = 0 ↔ second % 2 = 0) := by omega
  by_cases a : first % 2 = 0 <;> by_cases b : second % 2 = 0 <;> cases c <;>
    simp [parity, a, b, Color.flip]

namespace Signal

def lapsed (s : Signal) (deadline : Instant) : Signal :=
  { s with mode := .cycling, phaseStart := deadline }

section

variable (cycle : Span) (id : IntersectionId) {s : Signal} {now deadline : Instant} {cause : Cause}

theorem tick_cycling (mode : s.mode = .cycling) : s.tick cycle id now = s.turn cycle id now := by
  simp [tick, lapse, mode]

theorem tick_held (mode : s.mode = .held) : s.tick cycle id now = (s, none) := by
  simp [tick, lapse, mode]

theorem tick_early (mode : s.mode = .timed deadline cause) (early : now < deadline) :
    s.tick cycle id now = (s, none) := by
  simp [tick, lapse, mode, early]

theorem tick_late (mode : s.mode = .timed deadline cause) (late : ¬ now < deadline) :
    s.tick cycle id now = (s.lapsed deadline).turn cycle id now := by
  simp [tick, lapse, mode, late, lapsed]

theorem lapse_cases (s : Signal) (now : Instant) :
    s.lapse now = s ∨ ∃ deadline cause, s.mode = .timed deadline cause ∧ ¬ now < deadline ∧
      s.lapse now = s.lapsed deadline := by
  unfold lapse
  split
  next deadline cause mode =>
    split
    next => exact .inl rfl
    next late => exact .inr ⟨deadline, cause, mode, late, rfl⟩
  next => exact .inl rfl

theorem turn_mode (s : Signal) : (s.turn cycle id now).1.mode = s.mode := by
  simp only [turn]
  split_ifs <;> rfl

@[simp] theorem apply_color (s : Signal) (c : Command) : (s.apply c).1.color = c.target := by
  simp only [apply]
  split
  next repeated => exact repeated.2.2
  next => rfl

@[simp] theorem apply_mode (s : Signal) (c : Command) : (s.apply c).1.mode = Command.mode c := by
  simp only [apply]
  split
  next repeated => exact repeated.2.1.trans repeated.1.symm
  next => rfl

theorem apply_timed (s : Signal) {c : Command} {n : Nat} (timed : c.seconds = some n) :
    (s.apply c).2 = some ⟨c.intersection, s.color, c.target, c.cause.label,
      some (c.issuedAt.after n), c.issuedAt⟩ := by
  simp [apply, Command.mode, timed, timer]

end

def cycleNanos (cycleSeconds : Nat) : Int := (max 1 cycleSeconds : Nat) * 1000000000

def cyclesBetween (cycleSeconds : Nat) (anchor now : Instant) : Int :=
  (now.since anchor).nanos / cycleNanos cycleSeconds

theorem cycleNanos_pos (n : Nat) : 1000000000 ≤ cycleNanos n := by
  unfold cycleNanos
  omega

theorem cycleSpan_nanos (n : Nat) : (cycleSpan n).nanos = min (cycleNanos n) Span.max.nanos :=
  Span.seconds_nanos _

theorem phases_eq {n : Nat} {s : Signal} {now : Instant}
    (forward : 0 ≤ (now.since s.phaseStart).nanos) :
    phases (cycleSpan n) s now = cyclesBetween n s.phaseStart now := by
  have longest := Instant.since_lt now s.phaseStart
  have positive := cycleNanos_pos n
  unfold phases cyclesBetween
  rw [Span.wholeSeconds_nonneg forward, Span.wholeSeconds_nonneg (by
    rw [cycleSpan_nanos]
    simp only [Span.max]
    omega), cycleSpan_nanos]
  by_cases fits : cycleNanos n ≤ Span.max.nanos
  · have whole : min (cycleNanos n) Span.max.nanos / 1000000000 = (max 1 n : Nat) := by
      rw [min_eq_left fits, cycleNanos]
      omega
    rw [whole, cycleNanos, mul_comm, Int.ediv_ediv_of_nonneg (by omega)]
  · -- A cycle that was cut to the longest span is never over, nor is the one configured.
    rw [min_eq_right (by omega)]
    simp only [Span.max] at *
    have configured : (now.since s.phaseStart).nanos / cycleNanos n = 0 :=
      Int.ediv_eq_zero_of_lt forward (by omega)
    rw [configured]
    omega

theorem due_iff (n : Nat) (s : Signal) (now : Instant) :
    ¬ now.since s.phaseStart < cycleSpan n ↔ cycleNanos n ≤ (now.since s.phaseStart).nanos := by
  change ¬ (now.since s.phaseStart).nanos < (cycleSpan n).nanos ↔ _
  have longest := Instant.since_lt now s.phaseStart
  rw [cycleSpan_nanos]
  simp only [Span.max]
  omega

theorem underway_iff (n : Nat) (s : Signal) {now : Instant} (forward : 0 ≤ (now.since s.phaseStart).nanos) :
    now.since s.phaseStart < cycleSpan n ↔ cyclesBetween n s.phaseStart now = 0 := by
  have positive := cycleNanos_pos n
  have once : 1 ≤ cyclesBetween n s.phaseStart now ↔ cycleNanos n ≤ (now.since s.phaseStart).nanos := by
    rw [cyclesBetween, Int.le_ediv_iff_mul_le (by omega), one_mul]
  have nonneg : 0 ≤ cyclesBetween n s.phaseStart now := Int.ediv_nonneg forward (by omega)
  rw [← not_iff_not, due_iff, ← once]
  omega

theorem due_cycleSpan {n : Nat} {s : Signal} {now : Instant}
    (due : cycleNanos n ≤ (now.since s.phaseStart).nanos) : (cycleSpan n).nanos = cycleNanos n := by
  have longest := Instant.since_lt now s.phaseStart
  rw [cycleSpan_nanos]
  simp only [Span.max]
  omega

theorem stride_bounds {n : Nat} {s : Signal} {now : Instant}
    (due : cycleNanos n ≤ (now.since s.phaseStart).nanos) :
    cycleNanos n ≤ (cycleSpan n).nanos * min (phases (cycleSpan n) s now) maxPhases ∧
      (cycleSpan n).nanos * min (phases (cycleSpan n) s now) maxPhases ≤
        (now.since s.phaseStart).nanos := by
  have positive := cycleNanos_pos n
  rw [due_cycleSpan due, phases_eq (by omega), cyclesBetween]
  have once : 1 ≤ (now.since s.phaseStart).nanos / cycleNanos n := by
    rw [Int.le_ediv_iff_mul_le (by omega)]
    omega
  have least : 1 ≤ min ((now.since s.phaseStart).nanos / cycleNanos n) maxPhases := by
    simp only [maxPhases]
    omega
  constructor
  · exact le_mul_of_one_le_right (by omega) least
  · calc cycleNanos n * min ((now.since s.phaseStart).nanos / cycleNanos n) maxPhases
        ≤ cycleNanos n * ((now.since s.phaseStart).nanos / cycleNanos n) :=
          mul_le_mul_of_nonneg_left (min_le_left _ _) (by omega)
      _ ≤ _ := Int.mul_ediv_self_le (by omega)

theorem nextAnchor?_inside {n : Nat} {s : Signal} {now : Instant} (inside : now.isFinalLeap = false)
    (due : cycleNanos n ≤ (now.since s.phaseStart).nanos) :
    (nextAnchor? (cycleSpan n) s now).isSome := by
  have positive := cycleNanos_pos n
  obtain ⟨least, most⟩ := stride_bounds due
  have span := Instant.since_le now s.phaseStart
  have first := s.phaseStart.first_le
  have last := now.le_last
  have nanos := now.nanos_lt
  rw [Instant.isFinalLeap_eq_false] at inside
  unfold nextAnchor?
  generalize (cycleSpan n).nanos * min (phases (cycleSpan n) s now) maxPhases = stride at *
  have forward : 0 ≤ stride := by omega
  simp only [Instant.isLeap_eq_true, Instant.stamp] at span
  simp only [Instant.add?, Span.wholeSeconds_nonneg (d := ⟨stride⟩) forward]
  by_cases leap : 1000000000 ≤ s.phaseStart.nanos
  · have whole : 0 < stride / 1000000000 := by omega
    simp only [leap, if_true, whole, true_or, Instant.ofNanos?_isSome, Instant.firstSecond,
      Instant.lastSecond] at *
    omega
  · simp only [leap, if_false, Instant.ofNanos?_isSome, Instant.firstSecond,
      Instant.lastSecond] at *
    omega

theorem canTick_inside (n : Nat) (s : Signal) {now : Instant} (inside : now.isFinalLeap = false) :
    s.canTick (cycleSpan n) now = true := by
  unfold canTick
  by_cases due : now.since (s.lapse now).phaseStart < cycleSpan n
  · simp [due]
  · simp [nextAnchor?_inside inside ((due_iff n _ now).mp due)]

theorem cyclesBetween_plain (n : Nat) {anchor now : Instant} (plainAnchor : anchor.isLeap = false)
    (plainNow : now.isLeap = false) :
    cyclesBetween n anchor now = (now.stamp - anchor.stamp) / cycleNanos n := by
  rw [cyclesBetween, Instant.since_plain plainNow plainAnchor]

theorem cyclesBetween_nonneg (n : Nat) {anchor now : Instant} (plainAnchor : anchor.isLeap = false)
    (plainNow : now.isLeap = false) (forward : anchor ≤ now) : 0 ≤ cyclesBetween n anchor now := by
  have positive := cycleNanos_pos n
  rw [cyclesBetween_plain n plainAnchor plainNow]
  rw [Instant.le_iff_stamp plainAnchor plainNow] at forward
  exact Int.ediv_nonneg (by omega) (by omega)

def strode (id : IntersectionId) (s : Signal) (phases : Int) (anchor : Instant) :
    Signal × Option Transition :=
  if phases % 2 = 0 then ({ s with phaseStart := anchor }, none)
  else
    ({ s with color := s.color.flip, since := anchor, phaseStart := anchor },
      some ⟨id, s.color, s.color.flip, "cycle", none, anchor⟩)

section

variable (id : IntersectionId) (s : Signal) (phases : Int) (anchor : Instant)

@[simp] theorem strode_color : (s.strode id phases anchor).1.color = s.color.turned phases := by
  unfold strode Color.turned
  split_ifs <;> rfl

@[simp] theorem strode_mode : (s.strode id phases anchor).1.mode = s.mode := by
  unfold strode
  split_ifs <;> rfl

@[simp] theorem strode_phaseStart : (s.strode id phases anchor).1.phaseStart = anchor := by
  unfold strode
  split_ifs <;> rfl

theorem strode_told : ∀ t ∈ (s.strode id phases anchor).2, t.moment = anchor := by
  unfold strode
  split_ifs <;> simp

end

theorem turn_due (n : Nat) (id : IntersectionId) {s : Signal} {now : Instant}
    (inside : now.isFinalLeap = false) (due : ¬ now.since s.phaseStart < cycleSpan n) :
    ∃ anchor, nextAnchor? (cycleSpan n) s now = some anchor ∧
      s.turn (cycleSpan n) id now = s.strode id (phases (cycleSpan n) s now) anchor := by
  have long := (due_iff n s now).mp due
  obtain ⟨anchor, moved⟩ := Option.isSome_iff_exists.mp (nextAnchor?_inside inside long)
  refine ⟨anchor, moved, ?_⟩
  simp only [turn, due, if_false, moved, Option.getD_some, strode]

theorem turn_strides (n : Nat) (id : IntersectionId) {s : Signal} {now : Instant}
    (plainStart : s.phaseStart.isLeap = false) (plainNow : now.isLeap = false)
    (forward : s.phaseStart ≤ now) :
    ∃ anchor, s.phaseStart.add? ⟨cycleNanos n * min (cyclesBetween n s.phaseStart now) maxPhases⟩ =
        some anchor ∧
      s.turn (cycleSpan n) id now = s.strode id (cyclesBetween n s.phaseStart now) anchor := by
  have ahead := Instant.since_nonneg plainNow plainStart forward
  by_cases due : now.since s.phaseStart < cycleSpan n
  · have none := (underway_iff n s ahead).mp due
    refine ⟨s.phaseStart, ?_, ?_⟩
    · simp [none, maxPhases, Instant.add?_plain plainStart, Instant.ofNanos?_stamp plainStart]
    · simp [turn, due, none, strode]
  · have long := (due_iff n s now).mp due
    obtain ⟨anchor, moved, turned⟩ := turn_due n id (Instant.isFinalLeap_of_plain plainNow) due
    rw [nextAnchor?, due_cycleSpan long, phases_eq ahead] at moved
    rw [phases_eq ahead] at turned
    exact ⟨anchor, moved, turned⟩

theorem turn_plain (n : Nat) (id : IntersectionId) {s : Signal} {now : Instant}
    (plainStart : s.phaseStart.isLeap = false) (plainNow : now.isLeap = false)
    (forward : s.phaseStart ≤ now) (few : cyclesBetween n s.phaseStart now ≤ maxPhases) :
    (s.turn (cycleSpan n) id now).1.color = s.color.turned (cyclesBetween n s.phaseStart now) ∧
      s.phaseStart.add? ⟨cycleNanos n * cyclesBetween n s.phaseStart now⟩ =
        some (s.turn (cycleSpan n) id now).1.phaseStart := by
  obtain ⟨anchor, moved, turned⟩ := turn_strides n id plainStart plainNow forward
  rw [turned, strode_color, strode_phaseStart]
  exact ⟨rfl, by rw [← moved, min_eq_left few]⟩

end Signal

end Signalgrid
