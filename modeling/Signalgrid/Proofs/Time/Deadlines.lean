import Signalgrid.Proofs.Time.Moments

set_option autoImplicit false

namespace Signalgrid

namespace Span

def mostSeconds : Nat := 9223372036854775

def signedWord? (n : Nat) : Option Int := if n < 9223372036854775808 then some n else none

theorem eq_of_nanos {d e : Span} (same : d.nanos = e.nanos) : d = e := by
  cases d
  cases e
  exact congrArg mk same

theorem seconds_exact {n : Nat} (fits : n ≤ mostSeconds) : seconds n = ⟨n * 1000000000⟩ := by
  apply eq_of_nanos
  rw [seconds_nanos]
  simp only [max, mostSeconds] at *
  omega

theorem seconds_most {n : Nat} (beyond : mostSeconds < n) : seconds n = max := by
  apply eq_of_nanos
  rw [seconds_nanos]
  simp only [max, mostSeconds] at *
  omega

theorem seconds_mono {m n : Nat} (order : m ≤ n) : seconds m ≤ seconds n := by
  change (seconds m).nanos ≤ (seconds n).nanos
  rw [seconds_nanos, seconds_nanos]
  omega

theorem seconds_signedWord (n : Nat) : seconds n = ((signedWord? n).bind ofSeconds?).getD max := by
  unfold signedWord?
  split
  next => rw [Option.bind_some, seconds]
  next long => exact seconds_most (by simp only [mostSeconds]; omega)

end Span

namespace Instant

variable {t u : Instant} {n : Nat}

structure LiesAfter (t : Instant) (n : Nat) (u : Instant) : Prop where
  seconds : u.seconds = t.seconds + n
  nanos : u.nanos = t.nanos

theorem LiesAfter.plain (lies : t.LiesAfter n u) (plain : t.isLeap = false) : u.isLeap = false := by
  rw [isLeap_eq_false] at *
  rw [lies.nanos]
  exact plain

theorem LiesAfter.stamp (lies : t.LiesAfter n u) : u.stamp = t.stamp + n * 1000000000 := by
  simp only [Instant.stamp, lies.seconds, lies.nanos]
  omega

theorem liesAfter_iff (plain : t.isLeap = false) :
    t.LiesAfter n u ↔ u.isLeap = false ∧ u.stamp = t.stamp + n * 1000000000 := by
  constructor
  · exact fun lies => ⟨lies.plain plain, lies.stamp⟩
  · rintro ⟨plainU, stamp⟩
    rw [isLeap_eq_false] at plain plainU
    simp only [Instant.stamp] at stamp
    exact ⟨by omega, by omega⟩

theorem stamp_le_latest (plain : u.isLeap = false) : u.stamp ≤ latest.stamp :=
  (le_iff_stamp plain latest_plain).mp (le_latest plain)

/-- A count too long for a span leads out of the calendar anyway. -/
theorem add?_seconds_iff (plain : t.isLeap = false) :
    t.add? (.seconds n) = some u ↔ t.LiesAfter n u := by
  have first := t.first_le
  have calendar : u.stamp ≤ t.stamp + Span.max.nanos - 1 := by
    have last := u.le_last
    have nanos := u.nanos_lt
    simp only [stamp, Span.max]
    omega
  rw [add?_plain plain, Span.seconds_nanos, liesAfter_iff plain]
  constructor
  · intro found
    obtain ⟨stamp, plainU⟩ := ofNanos?_eq_some found
    exact ⟨plainU, by omega⟩
  · rintro ⟨plainU, stamp⟩
    have short : min ((n : Int) * 1000000000) Span.max.nanos = n * 1000000000 := by omega
    rw [short, ← stamp, ofNanos?_stamp plainU]

theorem after_exact (plain : t.isLeap = false) (lies : t.LiesAfter n u) : t.after n = u := by
  rw [after, (add?_seconds_iff plain).mpr lies, Option.getD_some]

theorem after_latest (plain : t.isLeap = false) (beyond : ∀ u, ¬ t.LiesAfter n u) : t.after n = latest := by
  have nothing : t.add? (.seconds n) = none :=
    Option.eq_none_iff_forall_ne_some.mpr fun u found => beyond u ((add?_seconds_iff plain).mp found)
  rw [after, nothing, Option.getD_none]

theorem after_stamp (plain : t.isLeap = false) :
    (t.after n).stamp = min (t.stamp + n * 1000000000) latest.stamp := by
  by_cases within : ∃ u, t.LiesAfter n u
  · obtain ⟨u, lies⟩ := within
    have bound := stamp_le_latest (lies.plain plain)
    rw [after_exact plain lies]
    rw [lies.stamp] at bound ⊢
    omega
  · have beyond : latest.stamp < t.stamp + n * 1000000000 := by
      refine Int.not_le.mp fun early => ?_
      have first := t.first_le
      have inside : (ofNanos? (t.stamp + n * 1000000000)).isSome := by
        rw [ofNanos?_isSome]
        simp only [stamp, latest, firstSecond, lastSecond] at *
        omega
      obtain ⟨u, found⟩ := Option.isSome_iff_exists.mp inside
      obtain ⟨stamp, plainU⟩ := ofNanos?_eq_some found
      exact within ⟨u, (liesAfter_iff plain).mpr ⟨plainU, stamp⟩⟩
    rw [after_latest plain (not_exists.mp within)]
    omega

theorem after_mono (plain : t.isLeap = false) {m n : Nat} (order : m ≤ n) : t.after m ≤ t.after n := by
  rw [le_iff_stamp (after_plain plain m).1 (after_plain plain n).1, after_stamp plain, after_stamp plain]
  omega

theorem deadlines_saturate (t : Instant) (plain : t.isLeap = false) {m n : Nat} (order : m ≤ n) :
    (t ≤ t.after m ∧ t.after m ≤ t.after n) ∧
      (∀ u, t.LiesAfter n u → t.after n = u) ∧
      ((∀ u, ¬ t.LiesAfter n u) → t.after n = latest ∧ ∀ u : Instant, u.isLeap = false → u ≤ latest) ∧
      Span.seconds m ≤ Span.seconds n ∧
      (Span.seconds n = if n ≤ Span.mostSeconds then ⟨n * 1000000000⟩ else .max) ∧
      t.after n = (t.add? (((Span.signedWord? n).bind Span.ofSeconds?).getD .max)).getD latest := by
  refine ⟨⟨(after_plain plain m).2, after_mono plain order⟩, fun u => after_exact plain,
    fun beyond => ⟨after_latest plain beyond, fun u => le_latest⟩, Span.seconds_mono order, ?_, ?_⟩
  · split
    next fits => exact Span.seconds_exact fits
    next long => exact Span.seconds_most (Nat.not_le.mp long)
  · rw [← Span.seconds_signedWord, after]

theorem deadlines_saturate_at_end :
    ∃ t : Instant, t.seconds = lastSecond - 1 ∧ t.nanos = 5 ∧
      (t.after 1).seconds = lastSecond ∧ (t.after 1).nanos = 5 ∧ t.after 18446744073709551615 = latest ∧
      t.after 1 ≤ t.after 18446744073709551615 := by
  let t : Instant := ⟨8210266876798, 5, by decide, by decide, by decide, by decide⟩
  let u : Instant := ⟨8210266876799, 5, by decide, by decide, by decide, by decide⟩
  have plain : t.isLeap = false := by decide
  have next : t.after 1 = u := (deadlines_saturate t plain (Nat.le_refl 1)).2.1 u ⟨by decide, by decide⟩
  obtain ⟨⟨_, later⟩, _, cut, _⟩ :=
    deadlines_saturate t plain (show 1 ≤ 18446744073709551615 by decide)
  have beyond (v : Instant) : ¬ t.LiesAfter 18446744073709551615 v := by
    intro lies
    have last := v.le_last
    rw [lies.seconds] at last
    simp only [t] at last
    omega
  exact ⟨t, rfl, rfl, by rw [next]; rfl, by rw [next], (cut beyond).1, later⟩

end Instant

end Signalgrid
