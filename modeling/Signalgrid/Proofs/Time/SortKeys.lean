import Signalgrid.Proofs.Time.Moments
import Signalgrid.Proofs.Time.Texts
import Mathlib.Data.String.Basic
import Mathlib.Tactic.Linarith
import Mathlib.Tactic.Ring

set_option autoImplicit false

namespace Signalgrid

namespace TimeText

theorem value_foldl (ds : List Char) (n : Nat) :
    ds.foldl (fun n c => n * 10 + (c.toNat - 48)) n = n * 10 ^ ds.length + value ds := by
  induction ds generalizing n with
  | nil => simp [value]
  | cons c ds ih =>
    rw [value, List.foldl_cons, List.foldl_cons, ih, ih]
    simp only [List.length_cons, Nat.pow_succ]
    ring

theorem value_cons (c : Char) (ds : List Char) :
    value (c :: ds) = (c.toNat - 48) * 10 ^ ds.length + value ds := by
  rw [value, List.foldl_cons, value_foldl, Nat.zero_mul, Nat.zero_add]

theorem value_lt {ds : List Char} (digits : ∀ c ∈ ds, c.isDigit = true) : value ds < 10 ^ ds.length := by
  induction ds with
  | nil => simp [value]
  | cons c ds ih =>
    simp only [List.mem_cons, forall_eq_or_imp] at digits
    have rest := ih digits.2
    have digit : c.toNat - 48 ≤ 9 := by
      have bounds := Char.isDigit_iff_toNat.mp digits.1
      have nine : '9'.toNat = 57 := rfl
      omega
    rw [value_cons, List.length_cons, Nat.pow_succ]
    nlinarith [Nat.mul_le_mul_right (10 ^ ds.length) digit]

theorem digits_lt {as bs xs ys : List Char} (same : as.length = bs.length)
    (digitsA : ∀ c ∈ as, c.isDigit = true) (digitsB : ∀ c ∈ bs, c.isDigit = true) :
    as ++ xs < bs ++ ys ↔ value as < value bs ∨ value as = value bs ∧ xs < ys := by
  induction as generalizing bs with
  | nil =>
    obtain rfl := List.length_eq_zero_iff.mp same.symm
    simp
  | cons a as ih =>
    cases bs with
    | nil => cases same
    | cons b bs =>
      simp only [List.mem_cons, forall_eq_or_imp] at digitsA digitsB
      have same' : as.length = bs.length := Nat.succ.inj same
      have lowA := value_lt digitsA.2
      have lowB := value_lt digitsB.2
      have digitA := Char.isDigit_iff_toNat.mp digitsA.1
      have digitB := Char.isDigit_iff_toNat.mp digitsB.1
      have zero : '0'.toNat = 48 := rfl
      rw [List.cons_append, List.cons_append, List.cons_lt_cons_iff, ih same' digitsA.2 digitsB.2, value_cons,
        value_cons, same']
      rw [same'] at lowA
      rcases Nat.lt_trichotomy a.toNat b.toNat with less | equal | more
      · have before : a < b := less
        have step : (a.toNat - 48 + 1) * 10 ^ bs.length ≤ (b.toNat - 48) * 10 ^ bs.length :=
          Nat.mul_le_mul_right _ (by omega)
        rw [Nat.add_mul] at step
        refine iff_of_true (.inl before) (.inl (by omega))
      · obtain rfl := Char.toNat_inj.mp equal
        simp
      · have after : ¬ a < b := Nat.lt_asymm more
        have apart : a ≠ b := fun same => absurd (same ▸ more) (Nat.lt_irrefl _)
        have step : (b.toNat - 48 + 1) * 10 ^ bs.length ≤ (a.toNat - 48) * 10 ^ bs.length :=
          Nat.mul_le_mul_right _ (by omega)
        rw [Nat.add_mul] at step
        refine iff_of_false (by simp [after, apart]) (by omega)

theorem padded_lt {width n m : Nat} (wide : 0 < width) (fitsN : n < 10 ^ width) (fitsM : m < 10 ^ width)
    (xs ys : List Char) : padded width n ++ xs < padded width m ++ ys ↔ n < m ∨ n = m ∧ xs < ys := by
  have same : (padded width n).length = (padded width m).length := by
    rw [padded_length wide fitsN, padded_length wide fitsM]
  rw [digits_lt same (padded_digits width n) (padded_digits width m), value_padded, value_padded]

theorem marked_lt {width n m : Nat} (wide : 0 < width) (fitsN : n < 10 ^ width) (fitsM : m < 10 ^ width)
    (mark : Char) (xs ys : List Char) :
    padded width n ++ mark :: xs < padded width m ++ mark :: ys ↔ n < m ∨ n = m ∧ xs < ys := by
  rw [padded_lt wide fitsN fitsM, List.cons_lt_cons_self]

end TimeText

namespace Date

theorem monthLength_le (year : Int) (month : Nat) : monthLength year month ≤ 31 := by
  unfold monthLength
  split <;> (try split) <;> omega

def ordinal (d : Date) : Int := (d.year * 12 + d.month) * 32 + d.day

/-- March counts as the first month of its year, so that the leap day comes last. -/
theorem ordinal_ofMarch (year : Int) {day : Int} (first : 0 ≤ day) (last : day ≤ 365) :
    (ofMarch year day).ordinal =
      (year * 12 + (5 * day + 2) / 153 + 3) * 32 + (day - (153 * ((5 * day + 2) / 153) + 2) / 5 + 1) := by
  have march : 0 ≤ (5 * day + 2) / 153 ∧ (5 * day + 2) / 153 ≤ 11 := by omega
  have began : (153 * ((5 * day + 2) / 153) + 2) / 5 ≤ day := by omega
  simp only [ordinal, ofMarch]
  generalize (5 * day + 2) / 153 = march at *
  split_ifs <;> omega

theorem ordinal_lt {a b : Int} (earlier : a < b) : (ofDays a).ordinal < (ofDays b).ordinal := by
  obtain ⟨yearA, dayA, firstA, lastA, splitA, sameA⟩ := ofDays_ofMarch a
  obtain ⟨yearB, dayB, firstB, lastB, splitB, sameB⟩ := ofDays_ofMarch b
  have withinA := day_le lastA
  have withinB := day_le lastB
  rw [sameA, sameB, ordinal_ofMarch yearA firstA withinA, ordinal_ofMarch yearB firstB withinB]
  have years : yearA ≤ yearB := by
    refine Int.not_lt.mp fun late => ?_
    have after := newYear_mono (show yearB + 1 ≤ yearA by omega)
    omega
  rcases Int.lt_or_eq_of_le years with before | rfl
  · omega
  · have months : (5 * dayA + 2) / 153 ≤ (5 * dayB + 2) / 153 := by omega
    rcases Int.lt_or_eq_of_le months with before | same
    · have shortA : dayA - (153 * ((5 * dayA + 2) / 153) + 2) / 5 ≤ 30 := by omega
      have shortB : 0 ≤ dayB - (153 * ((5 * dayB + 2) / 153) + 2) / 5 := by omega
      omega
    · rw [same]
      omega

theorem ordinal_lt_iff {a b : Int} : (ofDays a).ordinal < (ofDays b).ordinal ↔ a < b := by
  refine ⟨fun earlier => Int.not_le.mp fun late => ?_, ordinal_lt⟩
  rcases Int.lt_or_eq_of_le late with before | rfl
  · exact Int.lt_asymm earlier (ordinal_lt before)
  · exact Int.lt_irrefl _ earlier

end Date

namespace Instant

def truncated (t : Instant) : Instant :=
  { t with
    nanos := t.nanos / 1000 * 1000
    nanos_lt := Nat.lt_of_le_of_lt (Nat.div_mul_le_self _ _) t.nanos_lt
    leap_ends := fun leap => t.leap_ends (Nat.le_trans leap (Nat.div_mul_le_self _ _)) }

theorem truncated_le {a b : Instant} (order : a ≤ b) : a.truncated ≤ b.truncated := by
  rw [le_iff] at *
  simp only [truncated]
  omega

theorem le_of_truncated_lt {a b : Instant} (order : a.truncated < b.truncated) : a ≤ b := by
  rw [lt_iff] at order
  rw [le_iff]
  simp only [truncated] at order
  omega

def FourDigit (t : Instant) : Prop := 0 ≤ t.date.year ∧ t.date.year ≤ 9999

instance (t : Instant) : Decidable t.FourDigit := inferInstanceAs (Decidable (_ ∧ _))

theorem sortText_eq {t : Instant} (year : t.FourDigit) :
    t.sortText =
      padded 4 t.date.year.toNat ++ '-' :: (padded 2 t.date.month ++ '-' :: (padded 2 t.date.day ++ 'T' ::
        (padded 2 (t.timeOfDay / 3600).toNat ++ ':' :: (padded 2 (t.timeOfDay / 60 % 60).toNat ++ ':' ::
          (padded 2 ((t.timeOfDay % 60).toNat + if 1000000000 ≤ t.nanos then 1 else 0) ++ '.' ::
            (padded 6 (t.fraction / 1000) ++ ['Z'])))))) := by
  have plain : Date.yearText t.date.year = padded 4 t.date.year.toNat := if_pos year
  simp [sortText, Date.text, plain, clockText, secondText]

theorem date_lt {a b : Instant} (yearA : a.FourDigit) (yearB : b.FourDigit) (rest : Prop) :
    (a.date.year.toNat < b.date.year.toNat ∨ a.date.year.toNat = b.date.year.toNat ∧
      (a.date.month < b.date.month ∨ a.date.month = b.date.month ∧
        (a.date.day < b.date.day ∨ a.date.day = b.date.day ∧ rest))) ↔
      a.seconds / 86400 < b.seconds / 86400 ∨ a.seconds / 86400 = b.seconds / 86400 ∧ rest := by
  obtain ⟨-, -, monthA, monthA', dayA, dayA'⟩ := a.date_valid
  obtain ⟨-, -, monthB, monthB', dayB, dayB'⟩ := b.date_valid
  have lengthA := Date.monthLength_le a.date.year a.date.month
  have lengthB := Date.monthLength_le b.date.year b.date.month
  have before : a.date.ordinal < b.date.ordinal ↔ _ := Date.ordinal_lt_iff
  have after : b.date.ordinal < a.date.ordinal ↔ _ := Date.ordinal_lt_iff
  unfold FourDigit at yearA yearB
  unfold Date.ordinal at before after
  by_cases holds : rest
  · simp only [holds, and_true]
    omega
  · simp only [holds, and_false, or_false]
    omega

/-- There is room for the sixty-first second. -/
def ticks (hour minute second micros : Nat) : Nat :=
  ((hour * 60 + minute) * 61 + second) * 1000000 + micros

theorem ticks_lt {h m s u h' m' s' u' : Nat} (minute : m < 60) (minute' : m' < 60) (second : s < 61)
    (second' : s' < 61) (micros : u < 1000000) (micros' : u' < 1000000) :
    (h < h' ∨ h = h' ∧ (m < m' ∨ m = m' ∧ (s < s' ∨ s = s' ∧ u < u'))) ↔
      ticks h m s u < ticks h' m' s' u' := by
  unfold ticks
  omega

def clockTicks (t : Instant) : Nat :=
  ticks (t.timeOfDay / 3600).toNat (t.timeOfDay / 60 % 60).toNat
    ((t.timeOfDay % 60).toNat + if 1000000000 ≤ t.nanos then 1 else 0) (t.fraction / 1000)

theorem clockTicks_eq (t : Instant) :
    (t.clockTicks : Int) = (t.timeOfDay + t.timeOfDay / 60) * 1000000 + t.nanos / 1000 := by
  have bound := t.nanos_lt
  have low : 0 ≤ t.timeOfDay := Int.emod_nonneg _ (by decide)
  unfold clockTicks ticks fraction
  split <;> omega

theorem clockTicks_lt (a b : Instant) :
    (a.seconds / 86400 < b.seconds / 86400 ∨
      a.seconds / 86400 = b.seconds / 86400 ∧ a.clockTicks < b.clockTicks) ↔ a.truncated < b.truncated := by
  have boundA := a.nanos_lt
  have boundB := b.nanos_lt
  have endsA := a.leap_ends
  have endsB := b.leap_ends
  have ticksA := a.clockTicks_eq
  have ticksB := b.clockTicks_eq
  rw [lt_iff]
  unfold timeOfDay at ticksA ticksB
  simp only [truncated]
  omega

theorem places_fit (t : Instant) (year : t.FourDigit) :
    t.date.year.toNat < 10 ^ 4 ∧ t.date.month < 10 ^ 2 ∧ t.date.day < 10 ^ 2 ∧
      (t.timeOfDay / 3600).toNat < 10 ^ 2 := by
  obtain ⟨-, -, month, month', day, day'⟩ := t.date_valid
  have length := Date.monthLength_le t.date.year t.date.month
  obtain ⟨low, high⟩ := year
  have hour : (t.timeOfDay / 3600).toNat < 24 := by unfold timeOfDay; omega
  refine ⟨?_, ?_, ?_, ?_⟩ <;> omega

theorem clock_bounds (t : Instant) :
    (t.timeOfDay / 60 % 60).toNat < 60 ∧
      (t.timeOfDay % 60).toNat + (if 1000000000 ≤ t.nanos then 1 else 0) < 61 ∧
      t.fraction / 1000 < 1000000 := by
  refine ⟨?_, ?_, ?_⟩
  · omega
  · split <;> omega
  · unfold fraction
    omega

theorem sortKey_lt {a b : Instant} (yearA : a.FourDigit) (yearB : b.FourDigit) :
    a.toSortKey < b.toSortKey ↔ a.truncated < b.truncated := by
  obtain ⟨yearFitsA, monthA, dayA, hourA⟩ := a.places_fit yearA
  obtain ⟨yearFitsB, monthB, dayB, hourB⟩ := b.places_fit yearB
  obtain ⟨minuteA, secondA, microsA⟩ := a.clock_bounds
  obtain ⟨minuteB, secondB, microsB⟩ := b.clock_bounds
  rw [← clockTicks_lt, clockTicks, clockTicks,
    ← ticks_lt minuteA minuteB secondA secondB microsA microsB, ← date_lt yearA yearB,
    String.lt_iff_toList_lt, toSortKey, toSortKey, String.toList_ofList, String.toList_ofList,
    sortText_eq yearA, sortText_eq yearB]
  rw [TimeText.marked_lt (by decide) yearFitsA yearFitsB, TimeText.marked_lt (by decide) monthA monthB,
    TimeText.marked_lt (by decide) dayA dayB, TimeText.marked_lt (by decide) hourA hourB,
    TimeText.marked_lt (by decide) (by omega) (by omega), TimeText.marked_lt (by decide) (by omega) (by omega),
    TimeText.marked_lt (by decide) microsA microsB]
  simp

theorem sortKey_le {a b : Instant} (yearA : a.FourDigit) (yearB : b.FourDigit) :
    a.toSortKey ≤ b.toSortKey ↔ a.truncated ≤ b.truncated := by
  rw [← String.not_lt, sortKey_lt yearB yearA, not_lt]

theorem sortKey_exact {a b : Instant} (yearA : a.FourDigit) (yearB : b.FourDigit) :
    (a.toSortKey ≤ b.toSortKey ↔ a.truncated ≤ b.truncated) ∧
      (a.toSortKey = b.toSortKey ↔ a.truncated = b.truncated) := by
  have upward := sortKey_le yearA yearB
  have downward := sortKey_le yearB yearA
  refine ⟨upward, fun same => ?_, fun same => ?_⟩
  · exact le_antisymm (upward.mp (le_of_eq same)) (downward.mp (le_of_eq same.symm))
  · exact String.le_antisymm (upward.mpr (same ▸ le_refl _)) (downward.mpr (same ▸ le_refl _))

theorem sortKey_exact_leap :
    let a : Instant := ⟨1483228799, 1500000900, by decide, by decide, by decide, by decide⟩
    let b : Instant := ⟨1483228800, 0, by decide, by decide, by decide, by decide⟩
    a.FourDigit ∧ b.FourDigit ∧ a.isLeap = true ∧ a.toSortKey ≤ b.toSortKey ∧ a.toSortKey ≠ b.toSortKey := by
  intro a b
  have yearA : a.FourDigit := by decide
  have yearB : b.FourDigit := by decide
  obtain ⟨order, same⟩ := sortKey_exact yearA yearB
  exact ⟨yearA, yearB, by decide, order.mpr (by decide), fun told => absurd (same.mp told) (by decide)⟩

end Instant

end Signalgrid
