import Signalgrid.Time.Date
import Mathlib.Tactic.SplitIfs

set_option autoImplicit false

namespace Signalgrid.Date

/-- The day of an era on which one of its years begins, each year taken from March on. -/
def newYear (year : Int) : Int := 365 * year + year / 4 - year / 100 + year / 400

theorem isLeap_iff (year : Int) :
    isLeap year = true ↔ year % 4 = 0 ∧ (year % 100 ≠ 0 ∨ year % 400 = 0) := by
  simp [isLeap]

theorem newYear_era (era year : Int) : newYear (era * 400 + year) = era * 146097 + newYear year := by
  unfold newYear
  omega

theorem newYear_next (year : Int) :
    newYear (year + 1) = newYear year + if isLeap (year + 1) then 366 else 365 := by
  have fourth : (year + 1) / 4 = year / 4 + if (year + 1) % 4 = 0 then 1 else 0 := by split <;> omega
  have century : (year + 1) / 100 = year / 100 + if (year + 1) % 100 = 0 then 1 else 0 := by
    split <;> omega
  have era : (year + 1) / 400 = year / 400 + if (year + 1) % 400 = 0 then 1 else 0 := by split <;> omega
  have within : (year + 1) % 100 = 0 → (year + 1) % 4 = 0 := by omega
  have within' : (year + 1) % 400 = 0 → (year + 1) % 100 = 0 := by omega
  simp only [newYear, isLeap_iff, fourth, century, era]
  split_ifs <;> omega

theorem newYear_mono {a b : Int} (order : a ≤ b) : newYear a ≤ newYear b := by
  have later : ∀ n : Nat, newYear a ≤ newYear (a + n) := by
    intro n
    induction n with
    | zero => simp
    | succ n ih =>
      have next := newYear_next (a + n)
      rw [Int.add_assoc] at next
      refine Int.le_trans ih (next ▸ ?_)
      split <;> omega
  have reached := later (b - a).toNat
  rwa [show a + ((b - a).toNat : Int) = b by omega] at reached

def yearOfEra (day : Int) : Int := (day - day / 1460 + day / 36524 - day / 146096) / 365

theorem yearOfEra_next (day : Int) : yearOfEra day ≤ yearOfEra (day + 1) := by
  have fourth : (day + 1) / 1460 ≤ day / 1460 + 1 := by omega
  have century : day / 36524 ≤ (day + 1) / 36524 := by omega
  -- Four centuries end where the fourth of them does.
  have quartered : ∀ d : Int, d / 146096 = d / 36524 / 4 := fun d => by omega
  refine Int.ediv_le_ediv (by decide) ?_
  rw [quartered day, quartered (day + 1)]
  generalize (day + 1) / 1460 = e' at *
  generalize (day + 1) / 36524 = c' at *
  generalize day / 1460 = e at *
  generalize day / 36524 = c at *
  omega

theorem yearOfEra_mono {a b : Int} (order : a ≤ b) : yearOfEra a ≤ yearOfEra b := by
  have later : ∀ n : Nat, yearOfEra a ≤ yearOfEra (a + n) := by
    intro n
    induction n with
    | zero => simp
    | succ n ih =>
      have next := yearOfEra_next (a + n)
      rw [Int.add_assoc] at next
      exact Int.le_trans ih next
  have reached := later (b - a).toNat
  rwa [show a + ((b - a).toNat : Int) = b by omega] at reached

theorem yearOfEra_ends : ∀ year : Nat, year < 400 →
    yearOfEra (newYear year) = year ∧ yearOfEra (newYear (year + 1) - 1) = year := by
  decide +kernel

theorem exists_year {day : Int} (first : 0 ≤ day) {years : Nat} (last : day < newYear years) :
    ∃ year : Nat, year < years ∧ newYear year ≤ day ∧ day < newYear (year + 1) := by
  induction years with
  | zero => exact absurd last (by simpa [newYear] using first)
  | succ n ih =>
    by_cases earlier : day < newYear n
    · obtain ⟨year, within, bounds⟩ := ih earlier
      exact ⟨year, by omega, bounds⟩
    · exact ⟨n, by omega, by omega, by simpa using last⟩

theorem yearOfEra_bounds {day : Int} (first : 0 ≤ day) (last : day < 146097) :
    0 ≤ yearOfEra day ∧ yearOfEra day < 400 ∧ newYear (yearOfEra day) ≤ day ∧
      day < newYear (yearOfEra day + 1) := by
  obtain ⟨year, within, began, ended⟩ := @exists_year day first 400 (by simpa [newYear] using last)
  obtain ⟨low, high⟩ := yearOfEra_ends year within
  have same : yearOfEra day = year := by
    have above := yearOfEra_mono began
    have below := yearOfEra_mono (show day ≤ newYear (year + 1) - 1 by omega)
    omega
  rw [same]
  exact ⟨by omega, by omega, began, ended⟩

def ofMarch (year day : Int) : Date :=
  let march := (5 * day + 2) / 153
  let month := if march < 10 then march + 3 else march - 9
  { year := year + if month ≤ 2 then 1 else 0
    month := month.toNat
    day := (day - (153 * march + 2) / 5 + 1).toNat }

theorem ofDays_ofMarch (days : Int) :
    ∃ year day : Int, 0 ≤ day ∧ newYear year + day < newYear (year + 1) ∧
      days + 719468 = newYear year + day ∧ ofDays days = ofMarch year day := by
  let era := (days + 719468) / 146097
  let ofEra := (days + 719468) % 146097
  obtain ⟨low, high, began, ended⟩ :=
    @yearOfEra_bounds ofEra (Int.emod_nonneg _ (by decide)) (Int.emod_lt_of_pos _ (by decide))
  have whole : yearOfEra ofEra / 400 = 0 := by omega
  have same : newYear (yearOfEra ofEra) =
      365 * yearOfEra ofEra + yearOfEra ofEra / 4 - yearOfEra ofEra / 100 := by
    simp [newYear, whole]
  refine ⟨era * 400 + yearOfEra ofEra, ofEra - newYear (yearOfEra ofEra), by omega, ?_, ?_, ?_⟩
  · rw [Int.add_assoc, newYear_era, newYear_era]
    omega
  · rw [newYear_era]
    omega
  · rw [same]
    rfl

section

variable {year day : Int} (first : 0 ≤ day)

include first

theorem toDays_ofMarch (last : day ≤ 365) : (ofMarch year day).toDays = newYear year + day - 719468 := by
  have march : 0 ≤ (5 * day + 2) / 153 ∧ (5 * day + 2) / 153 ≤ 11 := by omega
  have began : (153 * ((5 * day + 2) / 153) + 2) / 5 ≤ day := by omega
  have split : newYear year =
      year / 400 * 146097 + (year % 400 * 365 + year % 400 / 4 - year % 400 / 100) := by
    unfold newYear
    omega
  rw [split]
  by_cases early : (5 * day + 2) / 153 < 10
  · have month : ¬ (5 * day + 2) / 153 + 3 ≤ 2 := by omega
    have month' : ¬ ((5 * day + 2) / 153 + 3).toNat ≤ 2 := by omega
    simp only [ofMarch, toDays, early, if_true, month, month', if_false, Int.add_zero]
    rw [if_pos (by omega)]
    generalize (5 * day + 2) / 153 = march at *
    omega
  · have month : (5 * day + 2) / 153 - 9 ≤ 2 := by omega
    have month' : ((5 * day + 2) / 153 - 9).toNat ≤ 2 := by omega
    simp only [ofMarch, toDays, early, if_true, month, month', if_false, Int.add_sub_cancel]
    rw [if_neg (by omega)]
    generalize (5 * day + 2) / 153 = march at *
    omega

theorem ofMarch_year (last : day ≤ 365) :
    (ofMarch year day).year = year + if day ≤ 305 then 0 else 1 := by
  simp only [ofMarch]
  split_ifs <;> omega

omit first in
theorem day_le (last : newYear year + day < newYear (year + 1)) : day ≤ 365 := by
  rw [newYear_next] at last
  split at last <;> omega

theorem monthLength_ofMarch (last : newYear year + day < newYear (year + 1)) :
    let d := ofMarch year day
    1 ≤ d.month ∧ d.month ≤ 12 ∧ 1 ≤ d.day ∧ d.day ≤ monthLength d.year d.month := by
  have within := day_le last
  rw [newYear_next] at last
  have months : (5 * day + 2) / 153 = 0 ∨ (5 * day + 2) / 153 = 1 ∨ (5 * day + 2) / 153 = 2 ∨
      (5 * day + 2) / 153 = 3 ∨ (5 * day + 2) / 153 = 4 ∨ (5 * day + 2) / 153 = 5 ∨
      (5 * day + 2) / 153 = 6 ∨ (5 * day + 2) / 153 = 7 ∨ (5 * day + 2) / 153 = 8 ∨
      (5 * day + 2) / 153 = 9 ∨ (5 * day + 2) / 153 = 10 ∨ (5 * day + 2) / 153 = 11 := by omega
  rcases months with month | month | month | month | month | month | month | month | month | month |
    month | month
  case inr.inr.inr.inr.inr.inr.inr.inr.inr.inr.inr =>
    -- February is the last month of such a year, and has one more day if the year to come is leap.
    simp [ofMarch, month, monthLength]
    split at last <;> simp_all <;> omega
  all_goals
    simp [ofMarch, month, monthLength]
    omega

end

theorem toDays_ofDays (days : Int) : (ofDays days).toDays = days := by
  obtain ⟨year, day, first, last, split, same⟩ := ofDays_ofMarch days
  rw [same, toDays_ofMarch first (day_le last)]
  omega

theorem ofDays_valid {days : Int} (from_first : -96465292 ≤ days) (to_last : days ≤ 95026236) :
    (ofDays days).Valid := by
  obtain ⟨year, day, first, last, split, same⟩ := ofDays_ofMarch days
  have within := day_le last
  rw [same]
  have began : newYear (-262144) = -95746130 := by decide
  have ends : newYear 262142 = 95745399 := by decide
  have closed : newYear 262143 = 95745764 := by decide
  have from_year : -262144 ≤ year := by
    refine Int.not_lt.mp fun early => ?_
    have before := newYear_mono (show year + 1 ≤ -262144 by omega)
    omega
  have to_year : year ≤ 262142 := by
    refine Int.not_lt.mp fun late => ?_
    have after := newYear_mono (show 262143 ≤ year by omega)
    omega
  have opening : year = -262144 → ¬ day ≤ 305 := by
    rintro rfl
    omega
  have closing : year = 262142 → day ≤ 305 := by
    rintro rfl
    omega
  refine ⟨?_, ?_, monthLength_ofMarch first last⟩
  · rw [ofMarch_year first within, firstYear]
    split <;> omega
  · rw [ofMarch_year first within, lastYear]
    split <;> omega

end Signalgrid.Date
