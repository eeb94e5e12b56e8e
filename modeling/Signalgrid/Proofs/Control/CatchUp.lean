import Signalgrid.Proofs.Control.Sweeps
import Mathlib.Algebra.BigOperators.Intervals

set_option autoImplicit false

namespace Signalgrid

namespace Signal

def ticked (cycle : Span) (id : IntersectionId) (now : Instant) (s : Signal) : Signal :=
  (s.tick cycle id now).1

def Behind (cycleSeconds : Nat) (now : Instant) (cycles : Int) (s : Signal) : Prop :=
  ∃ anchor, s.anchor? = some anchor ∧ anchor.isLeap = false ∧ anchor ≤ now ∧
    cyclesBetween cycleSeconds anchor now = cycles

def owed (cycles : Int) (ticks : Nat) : Int := max 0 (cycles - ticks * maxPhases)

@[simp] theorem owed_zero {cycles : Int} (ahead : 0 ≤ cycles) : owed cycles 0 = cycles := by
  simp [owed, ahead]

theorem owed_succ (cycles : Int) (ticks : Nat) :
    owed cycles (ticks + 1) = owed cycles ticks - min (owed cycles ticks) maxPhases := by
  simp only [owed, maxPhases]
  push_cast
  omega

theorem owed_eq_zero_iff (cycles : Int) (ticks : Nat) :
    owed cycles ticks = 0 ↔ cycles ≤ ticks * maxPhases := by
  unfold owed
  omega

section

variable {n : Nat} (id : IntersectionId) {s : Signal} {anchor now : Instant} {cycles : Int}

theorem tick_anchored (cycle : Span) (anchored : s.anchor? = some anchor) (passed : anchor ≤ now) :
    s.tick cycle id now = (s.lapsed anchor).turn cycle id now := by
  cases mode : s.mode with
  | cycling =>
    rw [anchor?_cycling mode, Option.some.injEq] at anchored
    have same : s.lapsed anchor = s := by
      rw [lapsed, ← mode, ← anchored]
    rw [tick_cycling cycle id mode, same]
  | timed deadline cause =>
    have lapses : deadline = anchor := by simpa [anchor?, mode] using anchored
    subst lapses
    exact tick_late cycle id mode (not_lt.mpr passed)
  | held => simp [anchor?, mode] at anchored

theorem tick_strides (anchored : s.anchor? = some anchor) (plainAnchor : anchor.isLeap = false)
    (plainNow : now.isLeap = false) (passed : anchor ≤ now) :
    ∃ next, anchor.add? ⟨cycleNanos n * min (cyclesBetween n anchor now) maxPhases⟩ = some next ∧
      s.tick (cycleSpan n) id now = (s.lapsed anchor).strode id (cyclesBetween n anchor now) next := by
  rw [tick_anchored id _ anchored passed]
  exact turn_strides n id (s := s.lapsed anchor) plainAnchor plainNow passed

theorem Behind.nonneg (behind : s.Behind n now cycles) (plainNow : now.isLeap = false) : 0 ≤ cycles := by
  obtain ⟨anchor, _, plainAnchor, passed, rfl⟩ := behind
  exact cyclesBetween_nonneg n plainAnchor plainNow passed

theorem Behind.unique {first second : Int} (one : s.Behind n now first) (other : s.Behind n now second) :
    first = second := by
  obtain ⟨anchor, anchored, _, _, rfl⟩ := one
  obtain ⟨anchor', anchored', _, _, rfl⟩ := other
  rw [anchored, Option.some.injEq] at anchored'
  rw [anchored']

theorem Behind.underway_iff (behind : s.Behind n now cycles) (plainNow : now.isLeap = false)
    (cycling : s.mode = .cycling) : now.since s.phaseStart < cycleSpan n ↔ cycles = 0 := by
  obtain ⟨anchor, anchored, plainAnchor, passed, rfl⟩ := behind
  rw [anchor?_cycling cycling, Option.some.injEq] at anchored
  subst anchored
  exact Signal.underway_iff n s (Instant.since_nonneg plainNow plainAnchor passed)

theorem Behind.ticked (behind : s.Behind n now cycles) (plainNow : now.isLeap = false) :
    (s.ticked (cycleSpan n) id now).Behind n now (cycles - min cycles maxPhases) ∧
      (s.ticked (cycleSpan n) id now).mode = .cycling ∧
      (s.ticked (cycleSpan n) id now).color = s.color.turned cycles := by
  obtain ⟨anchor, anchored, plainAnchor, passed, rfl⟩ := behind
  obtain ⟨next, moved, ticks⟩ := tick_strides (n := n) id anchored plainAnchor plainNow passed
  obtain ⟨plainNext, count⟩ := anchor_advance n plainAnchor plainNow moved
  have cycling : (s.ticked (cycleSpan n) id now).mode = .cycling := by
    rw [Signal.ticked, ticks, strode_mode, lapsed]
  refine ⟨⟨next, ?_, plainNext, ?_, by omega⟩, cycling, ?_⟩
  · rw [anchor?_cycling cycling, Signal.ticked, ticks, strode_phaseStart]
  · exact anchor_behind n plainAnchor plainNow moved (min_le_left _ _)
  · rw [Signal.ticked, ticks, strode_color, lapsed]

-- By induction on the ticks: each turns the color by all the cycles that it finds owed.
theorem Behind.ticks (behind : s.Behind n now cycles) (plainNow : now.isLeap = false) (k : Nat) :
    ((Signal.ticked (cycleSpan n) id now)^[k] s).Behind n now (owed cycles k) ∧
      ((Signal.ticked (cycleSpan n) id now)^[k] s).color =
        s.color.turned ((Finset.range k).sum (owed cycles)) := by
  induction k with
  | zero =>
    rw [owed_zero (behind.nonneg plainNow)]
    exact ⟨behind, rfl⟩
  | succ k ih =>
    obtain ⟨still, color⟩ := ih
    obtain ⟨next, _, turned⟩ := still.ticked id plainNow
    rw [Function.iterate_succ_apply', owed_succ, Finset.sum_range_succ, Color.turned_add, turned, color]
    exact ⟨next, rfl⟩

theorem Behind.unmoved_iff (behind : s.Behind n now cycles) (plainNow : now.isLeap = false)
    (cycling : s.mode = .cycling) : s.tick (cycleSpan n) id now = (s, none) ↔ cycles = 0 := by
  constructor
  · intro unmoved
    have same : s.ticked (cycleSpan n) id now = s := congrArg Prod.fst unmoved
    have left := (behind.ticked id plainNow).1
    rw [same] at left
    have count := left.unique behind
    have some := behind.nonneg plainNow
    simp only [maxPhases] at count
    omega
  · intro none
    have current : s.Current (cycleSpan n) now := by
      refine ⟨fun deadline cause timed => ?_, fun _ => (behind.underway_iff plainNow cycling).mpr none⟩
      rw [cycling] at timed
      cases timed
    exact current.tick _ id

end

/-- A tick moves the anchor by as many of the missed cycles as it can take, and the next one finds the
rest. -/
theorem catch_up_exact (n : Nat) (id : IntersectionId) (s : Signal) {anchor now : Instant}
    (anchored : s.anchor? = some anchor) (passed : anchor ≤ now) (plainAnchor : anchor.isLeap = false)
    (plainNow : now.isLeap = false) :
    let cycles := cyclesBetween n anchor now
    s.canTick (cycleSpan n) now = true ∧
      ∃ next, anchor.add? ⟨cycleNanos n * min cycles maxPhases⟩ = some next.phaseStart ∧
        next.mode = .cycling ∧ next.phaseStart ≤ now ∧ next.color = s.color.turned cycles ∧
        s.tick (cycleSpan n) id now =
          (next, if cycles % 2 = 0 then none
            else some ⟨id, s.color, s.color.flip, "cycle", none, next.phaseStart⟩) ∧
        (now.since next.phaseStart < cycleSpan n ↔ cycles ≤ maxPhases) ∧
        (next.tick (cycleSpan n) id now = (next, none) ↔ cycles ≤ maxPhases) ∧
        ∀ k, let later := (ticked (cycleSpan n) id now)^[k + 1] s
          (now.since later.phaseStart < cycleSpan n ↔ cycles ≤ (k + 1 : Nat) * maxPhases) ∧
            later.color = s.color.turned ((Finset.range (k + 1)).sum (owed cycles)) := by
  intro cycles
  have behind : s.Behind n now cycles := ⟨anchor, anchored, plainAnchor, passed, rfl⟩
  obtain ⟨after, moved, ticks⟩ := tick_strides (n := n) id anchored plainAnchor plainNow passed
  obtain ⟨left, cycling, turned⟩ := behind.ticked id plainNow
  have place : (s.ticked (cycleSpan n) id now).phaseStart = after := by
    rw [ticked, ticks, strode_phaseStart]
  have caught : cycles - min cycles maxPhases = 0 ↔ cycles ≤ maxPhases := by
    omega
  refine ⟨canTick_inside n s (Instant.isFinalLeap_of_plain plainNow),
    s.ticked (cycleSpan n) id now, by rw [place, moved], cycling, ?_, turned, ?_, ?_, ?_, fun k => ⟨?_, ?_⟩⟩
  · rw [place]
    exact anchor_behind n plainAnchor plainNow moved (min_le_left _ _)
  · rw [place, ticked, ticks, strode]
    split_ifs <;> rfl
  · rw [left.underway_iff plainNow cycling, caught]
  · rw [left.unmoved_iff id plainNow cycling, caught]
  · have still : ((ticked (cycleSpan n) id now)^[k + 1] s).mode = .cycling := by
      rw [Function.iterate_succ_apply']
      exact ((behind.ticks id plainNow k).1.ticked id plainNow).2.1
    rw [(behind.ticks id plainNow (k + 1)).1.underway_iff plainNow still, owed_eq_zero_iff]
  · exact (behind.ticks id plainNow (k + 1)).2

theorem catch_up_exact_lapsed :
    let s : Signal := ⟨.green, .epoch, .timed (Instant.epoch.after 10) .congestion, .epoch⟩
    let next : Signal := ⟨.green, .epoch, .cycling, Instant.epoch.after 70⟩
    s.tick (cycleSpan 15) "INT-B3" (Instant.epoch.after 84) = (next, none) ∧
      next.tick (cycleSpan 15) "INT-B3" (Instant.epoch.after 84) = (next, none) := by
  intro s next
  have anchored : s.anchor? = some (Instant.epoch.after 10) := by decide
  have passed : Instant.epoch.after 10 ≤ Instant.epoch.after 84 := by decide
  obtain ⟨_, caught, _, _, _, _, ticks, _, still, _⟩ :=
    catch_up_exact 15 "INT-B3" s anchored passed (by decide) (by decide)
  have first : s.tick (cycleSpan 15) "INT-B3" (Instant.epoch.after 84) = (next, none) := by decide
  obtain rfl : next = caught := congrArg Prod.fst (first.symm.trans ticks)
  exact ⟨first, still.mpr (by decide)⟩

theorem overdue_tick_flips_again :
    let late := Instant.epoch.after 2147483648
    let first : Signal := ⟨.red, .epoch, .cycling, Instant.epoch.after 2147483647⟩
    cyclesBetween 1 .epoch late = 2147483648 ∧
      (start .epoch).tick (cycleSpan 1) "INT-A1" late = (first, none) ∧
      ¬ late.since first.phaseStart < cycleSpan 1 ∧
      first.tick (cycleSpan 1) "INT-A1" late =
        (⟨.green, late, .cycling, late⟩, some ⟨"INT-A1", .red, .green, "cycle", none, late⟩) := by
  decide

end Signal

end Signalgrid
