import Signalgrid.Time.Instant
import Mathlib.Order.Defs.LinearOrder
import Mathlib.Tactic.SplitIfs

set_option autoImplicit false

namespace Signalgrid

namespace Instant

def stamp (t : Instant) : Int := t.seconds * 1000000000 + t.nanos

/-- No later moment can be told. -/
def isFinalLeap (t : Instant) : Bool := t.seconds = lastSecond && t.isLeap

theorem lt_iff (a b : Instant) :
    a < b ↔ a.seconds < b.seconds ∨ a.seconds = b.seconds ∧ a.nanos < b.nanos := Iff.rfl

theorem le_iff (a b : Instant) :
    a ≤ b ↔ a.seconds < b.seconds ∨ a.seconds = b.seconds ∧ a.nanos ≤ b.nanos := Iff.rfl

instance : LinearOrder Instant where
  le_refl a := .inr ⟨rfl, Nat.le_refl _⟩
  le_trans a b c first second := by
    rw [le_iff] at *
    omega
  lt_iff_le_not_ge a b := by
    rw [le_iff, le_iff, lt_iff]
    omega
  le_antisymm a b first second := by
    rw [le_iff] at first second
    cases a
    cases b
    simp only [mk.injEq] at *
    omega
  le_total a b := by
    rw [le_iff, le_iff]
    omega
  toDecidableLE := inferInstance
  toDecidableEq := inferInstance
  toDecidableLT := inferInstance

theorem isLeap_eq_false (t : Instant) : t.isLeap = false ↔ t.nanos < 1000000000 := by
  simp [isLeap]

theorem isLeap_eq_true (t : Instant) : t.isLeap = true ↔ 1000000000 ≤ t.nanos := by
  simp [isLeap]

theorem isFinalLeap_eq_false (t : Instant) :
    t.isFinalLeap = false ↔ t.seconds < lastSecond ∨ t.nanos < 1000000000 := by
  have last := t.le_last
  simp only [isFinalLeap, isLeap, Bool.and_eq_false_iff, decide_eq_false_iff_not]
  simp only [lastSecond]
  omega

theorem isFinalLeap_of_plain {t : Instant} (plain : t.isLeap = false) : t.isFinalLeap = false := by
  simp [isFinalLeap, plain]

theorem le_iff_stamp {a b : Instant} (plainA : a.isLeap = false) (plainB : b.isLeap = false) :
    a ≤ b ↔ a.stamp ≤ b.stamp := by
  rw [isLeap_eq_false] at plainA plainB
  rw [le_iff, stamp, stamp]
  omega

theorem stamp_injective {a b : Instant} (plainA : a.isLeap = false) (plainB : b.isLeap = false)
    (same : a.stamp = b.stamp) : a = b := by
  rw [isLeap_eq_false] at plainA plainB
  cases a
  cases b
  simp only [stamp] at same
  simp only [mk.injEq]
  simp only at plainA plainB
  omega

theorem ofParts?_isSome (seconds : Int) (nanos : Nat) :
    (ofParts? seconds nanos).isSome ↔
      (firstSecond ≤ seconds ∧ seconds ≤ lastSecond) ∧ nanos < 2000000000 ∧
        (1000000000 ≤ nanos → seconds % 60 = 59) := by
  unfold ofParts?
  split <;> simp_all [firstSecond, lastSecond]

theorem ofParts?_eq_some {seconds : Int} {nanos : Nat} {t : Instant}
    (found : ofParts? seconds nanos = some t) : t.seconds = seconds ∧ t.nanos = nanos := by
  unfold ofParts? at found
  split at found
  · obtain rfl := Option.some.inj found
    exact ⟨rfl, rfl⟩
  · cases found

theorem ofNanos?_eq_some {total : Int} {t : Instant} (found : ofNanos? total = some t) :
    t.stamp = total ∧ t.isLeap = false := by
  obtain ⟨seconds, nanos⟩ := ofParts?_eq_some found
  rw [isLeap_eq_false, stamp, seconds, nanos]
  omega

theorem ofNanos?_isSome (total : Int) :
    (ofNanos? total).isSome ↔
      firstSecond * 1000000000 ≤ total ∧ total < (lastSecond + 1) * 1000000000 := by
  rw [ofNanos?, ofParts?_isSome, firstSecond, lastSecond]
  omega

theorem ofNanos?_stamp {t : Instant} (plain : t.isLeap = false) : ofNanos? t.stamp = some t := by
  have inside : (ofNanos? t.stamp).isSome := by
    rw [ofNanos?_isSome, stamp, firstSecond, lastSecond]
    rw [isLeap_eq_false] at plain
    have first := t.first_le
    have last := t.le_last
    omega
  obtain ⟨u, found⟩ := Option.isSome_iff_exists.mp inside
  obtain ⟨same, plainU⟩ := ofNanos?_eq_some found
  rw [found, stamp_injective plainU plain same]

theorem add?_plain {t : Instant} (plain : t.isLeap = false) (d : Span) :
    t.add? d = ofNanos? (t.stamp + d.nanos) := by
  rw [isLeap_eq_false] at plain
  simp only [add?, if_neg (Nat.not_le.mpr plain), stamp]

theorem since_plain {a b : Instant} (plainA : a.isLeap = false) (plainB : b.isLeap = false) :
    (a.since b).nanos = a.stamp - b.stamp := by
  rw [isLeap_eq_false] at plainA plainB
  have noLeapA : ¬ 1000000000 ≤ a.nanos := by omega
  have noLeapB : ¬ 1000000000 ≤ b.nanos := by omega
  simp only [since, noLeapA, noLeapB, and_false, if_false, stamp]
  omega

theorem since_nonneg {a b : Instant} (plainA : a.isLeap = false) (plainB : b.isLeap = false) (order : b ≤ a) :
    0 ≤ (a.since b).nanos := by
  rw [le_iff_stamp plainB plainA] at order
  rw [since_plain plainA plainB]
  omega

theorem since_le (a b : Instant) :
    (a.since b).nanos ≤ a.stamp - b.stamp + if b.isLeap then 1000000000 else 0 := by
  simp only [since, isLeap_eq_true, stamp]
  split_ifs <;> omega

theorem since_lt (a b : Instant) : (a.since b).nanos < 20000000000000 * 1000000000 := by
  have bound := since_le a b
  have lastA := a.le_last
  have nanosA := a.nanos_lt
  have firstB := b.first_le
  simp only [stamp] at bound
  split_ifs at bound <;> omega

theorem latest_plain : latest.isLeap = false := rfl

theorem le_latest {t : Instant} (plain : t.isLeap = false) : t ≤ latest := by
  rw [isLeap_eq_false] at plain
  have last := t.le_last
  rw [le_iff, latest]
  simp only
  omega

end Instant

namespace Span

theorem seconds_nanos (n : Nat) : (seconds n).nanos = min ((n : Int) * 1000000000) max.nanos := by
  unfold seconds ofSeconds? ofNanos?
  split <;> simp_all [max, perSecond] <;> omega

theorem wholeSeconds_nonneg {d : Span} (forward : 0 ≤ d.nanos) :
    d.wholeSeconds = d.nanos / 1000000000 := by
  simp [wholeSeconds, perSecond, Int.tdiv_eq_ediv_of_nonneg forward]

theorem seconds_long {n : Nat} (some : 0 < n) : 1000000000 ≤ (seconds n).nanos := by
  rw [seconds_nanos]
  simp only [max]
  omega

end Span

namespace Instant

theorem after_plain {t : Instant} (plain : t.isLeap = false) (n : Nat) :
    (t.after n).isLeap = false ∧ t ≤ t.after n := by
  unfold after
  rw [add?_plain plain]
  cases found : ofNanos? (t.stamp + (Span.seconds n).nanos) with
  | none => exact ⟨latest_plain, le_latest plain⟩
  | some u =>
      obtain ⟨same, plainU⟩ := ofNanos?_eq_some found
      refine ⟨plainU, (le_iff_stamp plain plainU).mpr ?_⟩
      have forward : 0 ≤ (Span.seconds n).nanos := by
        rw [Span.seconds_nanos]
        simp only [Span.max]
        omega
      omega

theorem add?_long {t u : Instant} {d : Span} (long : 1000000000 ≤ d.nanos)
    (found : t.add? d = some u) :
    u.isLeap = false ∧ u.stamp = t.stamp + d.nanos - if t.isLeap then 1000000000 else 0 := by
  have whole : 0 < d.wholeSeconds := by
    rw [Span.wholeSeconds_nonneg (by omega)]
    omega
  cases leap : t.isLeap with
  | false =>
    rw [add?_plain leap] at found
    obtain ⟨stamp, plain⟩ := ofNanos?_eq_some found
    exact ⟨plain, by simpa using stamp⟩
  | true =>
    rw [isLeap_eq_true] at leap
    simp only [add?, leap, whole, true_or, if_true] at found
    obtain ⟨stamp, plain⟩ := ofNanos?_eq_some found
    refine ⟨plain, ?_⟩
    rw [stamp, Instant.stamp, if_pos rfl]
    omega

section

variable {t u : Instant} {n : Nat} (some : 0 < n)

include some

theorem after_isLeap : (t.after n).isLeap = false := by
  unfold after
  cases found : t.add? (.seconds n) with
  | none => exact latest_plain
  | some u => exact (add?_long (Span.seconds_long some) found).1

theorem lt_after (fits : (t.add? (.seconds n)).isSome) : t < t.after n := by
  obtain ⟨u, found⟩ := Option.isSome_iff_exists.mp fits
  obtain ⟨plain, stamp⟩ := add?_long (Span.seconds_long some) found
  have long := Span.seconds_long some
  rw [after, found, Option.getD_some, lt_iff]
  rw [isLeap_eq_false] at plain
  simp only [Instant.stamp, isLeap_eq_true] at stamp
  split_ifs at stamp <;> omega

omit some in
theorem isFinalLeap_of_lt (plain : u.isLeap = false) (earlier : t < u) : t.isFinalLeap = false := by
  have last := u.le_last
  rw [isLeap_eq_false] at plain
  rw [lt_iff] at earlier
  rw [isFinalLeap_eq_false, lastSecond]
  omega

omit some in
theorem isFinalLeap_of_le (order : t ≤ u) (inside : u.isFinalLeap = false) : t.isFinalLeap = false := by
  have last := u.le_last
  rw [isFinalLeap_eq_false, lastSecond] at *
  rw [le_iff] at order
  omega

theorem isFinalLeap_of_add? (fits : (t.add? (.seconds n)).isSome) : t.isFinalLeap = false :=
  isFinalLeap_of_lt (after_isLeap some) (lt_after some fits)

end

theorem after_zero (t : Instant) : t.after 0 = t := by
  have nothing : Span.seconds 0 = ⟨0⟩ := rfl
  rw [after, nothing]
  cases leap : t.isLeap with
  | false => simp [add?_plain leap, ofNanos?_stamp leap]
  | true =>
    rw [isLeap_eq_true] at leap
    simp [add?, leap, Span.wholeSeconds, Span.subNanos, ofParts?, t.first_le, t.le_last, t.nanos_lt,
      t.leap_ends]

theorem isFinalLeap_of_lt_after {t u : Instant} {n : Nat} (order : t ≤ u) (early : u < t.after n) :
    u.isFinalLeap = false := by
  rcases Nat.eq_zero_or_pos n with rfl | some
  · rw [after_zero] at early
    exact absurd early (not_lt.mpr order)
  · exact isFinalLeap_of_lt (after_isLeap some) early

end Instant

end Signalgrid
