import Signalgrid.Proofs.Time.Dates
import Signalgrid.Time.Reader
import Signalgrid.Time.Text
import Mathlib.Algebra.Group.Nat.Defs

set_option autoImplicit false

namespace Signalgrid

theorem padded_digits (width n : Nat) : ∀ c ∈ padded width n, c.isDigit = true := by
  intro c member
  rcases List.mem_append.mp member with zero | digit
  · rw [(List.mem_replicate.mp zero).2]
    decide
  · exact Nat.isDigit_of_mem_toDigits (by decide) (by decide) digit

theorem padded_length {width n : Nat} (wide : 0 < width) (fits : n < 10 ^ width) :
    (padded width n).length = width := by
  have short := (Nat.length_toDigits_le_iff (b := 10) (by decide) wide).mpr fits
  simp only [padded, List.length_append, List.length_replicate]
  omega

namespace TimeText

theorem value_padded (width n : Nat) : value (padded width n) = n := by
  have value_eq : ∀ ds, value ds = Nat.ofDigitChars 10 ds 0 := by
    intro ds
    simp only [value, Nat.ofDigitChars, Nat.mul_comm]
    rfl
  have zeros : ∀ k, Nat.ofDigitChars 10 (List.replicate k '0') 0 = 0 := by
    intro k
    induction k with
    | zero => rfl
    | succ k ih => exact ih
  have split : ∀ front back, Nat.ofDigitChars 10 (front ++ back) 0 =
      Nat.ofDigitChars 10 back (Nat.ofDigitChars 10 front 0) := fun _ _ => List.foldl_append
  rw [value_eq, padded, split, zeros, Nat.ofDigitChars_toDigits (by decide) (by decide)]

theorem padded_cons (width n : Nat) :
    ∃ c more, padded width n = c :: more ∧ (∀ d ∈ c :: more, d.isDigit = true) ∧ value (c :: more) = n := by
  cases shape : padded width n with
  | nil => simp [padded, Nat.toDigits_ne_nil] at shape
  | cons c more => exact ⟨c, more, rfl, shape ▸ padded_digits width n, shape ▸ value_padded width n⟩

def Reads {α : Type} (p : Parse α) (cs : List Char) (a : α) (rest : List Char) : Prop :=
  p cs = .ok (a, rest)

theorem Reads.bind {α β : Type} {p : Parse α} {f : α → Parse β} {cs m rest : List Char} {a : α} {b : β}
    (first : Reads p cs a m) (second : Reads (f a) m b rest) : Reads (p >>= f) cs b rest := by
  unfold Reads at *
  simp only [Bind.bind, StateT.bind, first, Except.bind]
  exact second

theorem Reads.pure {α : Type} (a : α) (cs : List Char) : Reads (pure a) cs a cs := rfl

end TimeText

namespace RelaxedTime

open TimeText

theorem reads_skipBlanks {cs : List Char} (filled : ∀ c ∈ cs.head?, Text.isBlank c = false) :
    Reads skipBlanks cs () cs := by
  have same : Text.trimStart cs = cs := by
    cases cs with
    | nil => rfl
    | cons c rest => simp [Text.trimStart, filled c rfl]
  have skipped : Reads skipBlanks cs () (Text.trimStart cs) := rfl
  rwa [same] at skipped

theorem reads_taken {cs ds rest : List Char} (left : cs.drop ds.length = rest)
    (small : value ds < 9223372036854775808) :
    Reads
      (do
        set (cs.drop ds.length)
        if 9223372036854775808 ≤ value ds then throw .outOfRange
        return value ds)
      cs (value ds) rest := by
  refine Reads.bind (a := ()) (m := rest) (left ▸ rfl) ?_
  rw [if_neg (by omega)]
  exact .pure _ _

theorem reads_number {width : Option Nat} {c : Char} {more rest : List Char}
    (digits : ∀ d ∈ c :: more, d.isDigit = true)
    (ends : width = some (c :: more).length ∨ width = none ∧ rest.takeWhile Char.isDigit = [])
    (small : value (c :: more) < 9223372036854775808) :
    Reads (number width) (c :: more ++ rest) (value (c :: more)) rest := by
  have run : (c :: more ++ rest).takeWhile Char.isDigit = c :: more ++ rest.takeWhile Char.isDigit :=
    List.takeWhile_append_of_pos digits
  have taken : (c :: more ++ rest.takeWhile Char.isDigit).take (c :: more).length = c :: more :=
    List.take_left
  have left : (c :: more ++ rest).drop (c :: more).length = rest := List.drop_left
  unfold number
  refine Reads.bind (a := c :: more ++ rest) rfl ?_
  simp only [List.cons_append] at run taken left ⊢
  simp only [digits c (by simp), run, Bool.not_true, Bool.false_eq_true, if_false]
  rcases ends with rfl | ⟨rfl, ended⟩
  · simp only [taken]
    exact reads_taken left small
  · simp only [ended, List.append_nil]
    exact reads_taken left small

theorem reads_padded (width n : Nat) (wide : 0 < width) (fits : n < 10 ^ width)
    (small : n < 9223372036854775808) (rest : List Char) :
    Reads (number (some width)) (padded width n ++ rest) n rest := by
  have length := padded_length wide fits
  obtain ⟨c, more, shape, digits, same⟩ := padded_cons width n
  rw [shape] at length ⊢
  have read := @reads_number (some width) c more rest digits (.inl (by rw [length])) (by omega)
  rwa [same] at read

theorem digit_filled {c : Char} (digit : c.isDigit = true) : Text.isBlank c = false := by
  simp only [Char.isDigit, Bool.and_eq_true, decide_eq_true_eq, UInt32.le_iff_toNat_le] at digit
  have bounds : 48 ≤ c.toNat ∧ c.toNat ≤ 57 := digit
  simp [Text.isBlank]
  omega

theorem padded_filled (width n : Nat) (rest : List Char) :
    ∀ c ∈ (padded width n ++ rest).head?, Text.isBlank c = false := by
  obtain ⟨c, more, shape, digits, _⟩ := padded_cons width n
  rw [shape]
  rintro _ ⟨⟩
  exact digit_filled (digits c (by simp))

theorem reads_field {low high n : Nat} (least : low ≤ n) (most : n ≤ high) (fits : high < 100)
    (rest : List Char) : Reads (field low high) (padded 2 n ++ rest) n rest := by
  unfold field
  refine Reads.bind (reads_skipBlanks (padded_filled 2 n rest)) ?_
  refine Reads.bind (reads_padded 2 n (by decide) (by omega) (by omega) rest) ?_
  rw [if_neg (by omega)]
  exact .pure _ _

theorem reads_literal {c : Char} (filled : Text.isBlank c = false) (rest : List Char) :
    Reads (literal c) (c :: rest) () rest := by
  unfold literal
  refine Reads.bind (reads_skipBlanks (by simpa using filled)) ?_
  refine Reads.bind (a := c :: rest) rfl ?_
  simp only [if_true]
  rfl

theorem reads_separator (rest : List Char) : Reads separator ('T' :: rest) () rest := by
  unfold separator
  refine Reads.bind (a := 'T' :: rest) rfl ?_
  rfl

theorem reads_zone : Reads zone ['Z'] 0 [] := rfl

theorem reads_places (width n : Nat) (wide : 0 < width) (most : width ≤ 9) (fits : n < 10 ^ width) :
    Reads fraction ('.' :: padded width n ++ ['Z']) (n * 10 ^ (9 - width)) ['Z'] := by
  have length := padded_length wide fits
  obtain ⟨c, more, shape, digits, same⟩ := padded_cons width n
  rw [shape] at length ⊢
  have run : (c :: more ++ ['Z']).takeWhile Char.isDigit = c :: more := by
    rw [List.takeWhile_append_of_pos digits]
    simp
  have left : (c :: more ++ ['Z']).dropWhile Char.isDigit = ['Z'] := by
    rw [List.dropWhile_append_of_pos digits]
    simp
  have taken : (c :: more).take 9 = c :: more := List.take_of_length_le (by omega)
  unfold fraction
  refine Reads.bind (a := '.' :: c :: more ++ ['Z']) rfl ?_
  simp only [List.cons_append] at run left ⊢
  simp only [run, left, taken, same, length, digits c (by simp), Bool.not_true, Bool.false_eq_true, if_false]
  exact Reads.bind (a := ()) (m := ['Z']) rfl (.pure _ _)

theorem reads_fraction (t : Instant) :
    Reads fraction (t.fractionText ++ ['Z']) t.fraction ['Z'] := by
  have bound : t.fraction < 1000000000 := Nat.mod_lt _ (by decide)
  unfold Instant.fractionText
  simp only
  split
  next none =>
    rw [none]
    rfl
  next =>
    split
    next thousands =>
      have read := reads_places 3 (t.fraction / 1000000) (by decide) (by decide) (by omega)
      have same : t.fraction / 1000000 * 10 ^ (9 - 3) = t.fraction := by omega
      rwa [same] at read
    next =>
      split
      next millions =>
        have read := reads_places 6 (t.fraction / 1000) (by decide) (by decide) (by omega)
        have same : t.fraction / 1000 * 10 ^ (9 - 6) = t.fraction := by omega
        rwa [same] at read
      next =>
        have read := reads_places 9 t.fraction (by decide) (by decide) (by omega)
        rwa [Nat.sub_self, Nat.pow_zero, Nat.mul_one] at read

theorem reads_unsigned (n : Nat) (small : n < 9223372036854775808) (rest : List Char) :
    Reads (number none) (padded 4 n ++ '-' :: rest) n ('-' :: rest) := by
  obtain ⟨c, more, shape, digits, same⟩ := padded_cons 4 n
  have read := @reads_number none c more ('-' :: rest) digits (.inr ⟨rfl, rfl⟩) (by omega)
  rwa [same, ← shape] at read

theorem reads_year {y : Int} (low : -1000000 ≤ y) (high : y ≤ 1000000) (rest : List Char) :
    Reads year (Date.yearText y ++ '-' :: rest) y ('-' :: rest) := by
  have judged : ∀ n : Int, n = y → Reads
      (pure n >>= fun n => do
        if n < -2147483648 ∨ 2147483648 ≤ n then throw .outOfRange
        return n)
      ('-' :: rest) y ('-' :: rest) := by
    rintro _ rfl
    refine Reads.bind (.pure _ _) ?_
    rw [if_neg (by omega)]
    exact .pure _ _
  unfold year Date.yearText
  split
  next plain =>
    have read := reads_padded 4 y.toNat (by decide) (by omega) (by omega) ('-' :: rest)
    refine Reads.bind (reads_skipBlanks (padded_filled 4 _ _)) ?_
    refine Reads.bind (a := padded 4 y.toNat ++ '-' :: rest) rfl ?_
    obtain ⟨c, more, shape, digits, _⟩ := padded_cons 4 y.toNat
    have digit : c.isDigit = true := digits c (by simp)
    simp only [shape, List.cons_append] at read ⊢
    split
    next same =>
      cases same
      cases digit
    next same =>
      cases same
      cases digit
    next => exact Reads.bind read (judged _ (by omega))
  next =>
    have read := reads_unsigned y.natAbs (by omega) rest
    by_cases negative : y < 0
    · simp only [negative, if_true]
      refine Reads.bind (reads_skipBlanks (by simp; decide)) ?_
      refine Reads.bind (a := '-' :: padded 4 y.natAbs ++ '-' :: rest) rfl ?_
      exact Reads.bind (a := ()) (m := padded 4 y.natAbs ++ '-' :: rest) rfl
        (Reads.bind read (judged _ (by omega)))
    · simp only [negative, if_false]
      refine Reads.bind (reads_skipBlanks (by simp; decide)) ?_
      refine Reads.bind (a := '+' :: padded 4 y.natAbs ++ '-' :: rest) rfl ?_
      exact Reads.bind (a := ()) (m := padded 4 y.natAbs ++ '-' :: rest) rfl
        (Reads.bind read (judged _ (by omega)))

end RelaxedTime

namespace Instant

open TimeText

def fields (t : Instant) : Fields where
  year := t.date.year
  month := t.date.month
  day := t.date.day
  hour := (t.timeOfDay / 3600).toNat
  minute := (t.timeOfDay / 60 % 60).toNat
  second := (t.timeOfDay % 60).toNat + if 1000000000 ≤ t.nanos then 1 else 0
  nanos := t.fraction
  offsetMinutes := 0

theorem date_valid (t : Instant) : t.date.Valid := by
  have first := t.first_le
  have last := t.le_last
  exact Date.ofDays_valid (by omega) (by omega)

theorem instant_told {f : Fields} {t : Instant} (date : (⟨f.year, f.month, f.day⟩ : Date).Valid)
    (hour : f.hour ≤ 23) (minute : f.minute ≤ 59) (second : f.second ≤ 60) (utc : f.offsetMinutes = 0)
    (seconds : (⟨f.year, f.month, f.day⟩ : Date).toDays * 86400 + f.hour * 3600 + f.minute * 60 +
      (if f.second = 60 then 59 else f.second : Nat) = t.seconds)
    (nanos : (if f.second = 60 then f.nanos + 1000000000 else f.nanos) = t.nanos) :
    f.instant = .ok t := by
  have sound : ¬ (¬ (⟨f.year, f.month, f.day⟩ : Date).Valid ∨ 23 < f.hour ∨ 59 < f.minute ∨
      60 < f.second ∨ 1440 ≤ f.offsetMinutes.natAbs) := by
    rw [utc]
    simp [date]
    omega
  have parts : ofParts? t.seconds t.nanos = some t :=
    dif_pos ⟨⟨t.first_le, t.le_last⟩, t.nanos_lt, t.leap_ends⟩
  simp only [Fields.instant]
  rw [if_neg sound, utc, nanos, Int.zero_mul, Int.sub_zero, seconds, parts]

theorem fields_instant (t : Instant) : t.fields.instant = .ok t := by
  have days : (⟨t.fields.year, t.fields.month, t.fields.day⟩ : Date).toDays = t.seconds / 86400 :=
    Date.toDays_ofDays _
  have bound := t.nanos_lt
  have hour : (t.fields.hour : Int) = t.seconds % 86400 / 3600 := by
    simp only [fields, timeOfDay]
    omega
  have minute : (t.fields.minute : Int) = t.seconds % 86400 / 60 % 60 := by
    simp only [fields, timeOfDay]
    omega
  have nanos : t.fields.nanos = t.nanos % 1000000000 := rfl
  have second : (t.fields.second : Int) = t.seconds % 60 + if 1000000000 ≤ t.nanos then 1 else 0 := by
    simp only [fields, timeOfDay]
    split <;> omega
  have ends := t.leap_ends
  refine instant_told t.date_valid (by omega) (by omega) (by split at second <;> omega) rfl ?_ ?_
  · rw [days]
    split at second <;> split <;> omega
  · rw [nanos]
    split at second <;> split <;> omega

theorem reads_dataText (t : Instant) : Reads RelaxedTime.instant t.dataText t [] := by
  obtain ⟨low, high, month, month', day, day'⟩ := t.date_valid
  have short : t.date.day ≤ 31 := by
    refine Nat.le_trans day' ?_
    unfold Date.monthLength
    split <;> try split
    all_goals decide
  have tod : 0 ≤ t.timeOfDay ∧ t.timeOfDay < 86400 := by
    unfold timeOfDay
    omega
  simp only [Date.firstYear, Date.lastYear] at low high
  unfold RelaxedTime.instant dataText Date.text clockText secondText
  simp only [List.append_assoc, List.cons_append]
  refine Reads.bind (RelaxedTime.reads_year (by omega) (by omega) _) ?_
  refine Reads.bind (RelaxedTime.reads_literal (by decide) _) ?_
  refine Reads.bind (RelaxedTime.reads_field month month' (by decide) _) ?_
  refine Reads.bind (RelaxedTime.reads_literal (by decide) _) ?_
  refine Reads.bind (RelaxedTime.reads_field day short (by decide) _) ?_
  refine Reads.bind (RelaxedTime.reads_separator _) ?_
  refine Reads.bind (RelaxedTime.reads_field (by omega) (by omega) (by decide) _) ?_
  refine Reads.bind (RelaxedTime.reads_literal (by decide) _) ?_
  refine Reads.bind (RelaxedTime.reads_field (by omega) (by omega) (by decide) _) ?_
  refine Reads.bind (RelaxedTime.reads_literal (by decide) _) ?_
  refine Reads.bind (RelaxedTime.reads_field (by omega) (by split <;> omega) (by decide) _) ?_
  refine Reads.bind (RelaxedTime.reads_fraction t) ?_
  refine Reads.bind (RelaxedTime.reads_skipBlanks (by simp; decide)) ?_
  refine Reads.bind RelaxedTime.reads_zone ?_
  refine Reads.bind (RelaxedTime.reads_skipBlanks (by simp)) ?_
  have lifted : Reads (liftM t.fields.instant) [] t [] := by
    rw [fields_instant]
    rfl
  exact Reads.bind (a := []) rfl lifted

theorem ofRelaxed_toData (t : Instant) : ofRelaxed t.toData = .ok t := by
  have read : RelaxedTime.instant t.dataText = .ok (t, []) := t.reads_dataText
  simp only [ofRelaxed, toData, StateT.run', String.toList_ofList, read]
  rfl

end Instant

end Signalgrid
