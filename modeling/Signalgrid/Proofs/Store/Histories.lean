import Signalgrid.Proofs.Store.Agreement
import Signalgrid.Proofs.Time.SortKeys
import Mathlib.Data.List.Sort

set_option autoImplicit false

namespace Signalgrid

section

variable {α : Type} {le le' : α → α → Bool}

theorem merge_congr {as bs : List α} (same : ∀ a ∈ as, ∀ b ∈ bs, le a b = le' a b) :
    as.merge bs le = as.merge bs le' := by
  induction as generalizing bs with
  | nil => simp
  | cons a as ih =>
    induction bs with
    | nil => simp
    | cons b bs ihb =>
      have first : le a b = le' a b := same a (by simp) b (by simp)
      have left : as.merge (b :: bs) le = as.merge (b :: bs) le' :=
        ih fun x there => same x (.tail _ there)
      have right : (a :: as).merge bs le = (a :: as).merge bs le' :=
        ihb fun x there y listed => same x there y (.tail _ listed)
      rw [List.cons_merge_cons, List.cons_merge_cons, first, left, right]

theorem mergeSort_congr {l : List α} (same : l.Pairwise fun a b => le a b = le' a b) :
    l.mergeSort le = l.mergeSort le' := by
  fun_induction l.mergeSort le with
  | case1 => simp
  | case2 => simp
  | case3 a b xs le lr _ _ ih₁ ih₂ =>
    rw [List.mergeSort]
    simp only [lr, List.MergeSort.Internal.splitInTwo_fst, List.MergeSort.Internal.splitInTwo_snd] at ih₁ ih₂ ⊢
    rw [← ih₁ (same.sublist (List.take_sublist _ _)), ← ih₂ (same.sublist (List.drop_sublist _ _))]
    refine merge_congr fun x first y second => ?_
    exact same.rel_of_mem_take_of_mem_drop (List.mem_mergeSort.mp first) (List.mem_mergeSort.mp second)

structure Ranking (le : α → α → Bool) : Prop where
  trans : ∀ a b c, le a b = true → le b c = true → le a c = true
  total : ∀ a b, (le a b || le b a) = true

theorem mergeSort_eq_iff (order : Ranking le) (order' : Ranking le') {l : List α} :
    l.mergeSort le = l.mergeSort le' ↔ l.Pairwise fun a b => le a b = le' a b := by
  refine ⟨fun equal => List.pairwise_iff_forall_sublist.mpr fun {a b} behind => ?_, mergeSort_congr⟩
  have sorted := List.pairwise_mergeSort order.trans order.total l
  have sorted' := List.pairwise_mergeSort order'.trans order'.total l
  rw [Bool.eq_iff_iff]
  constructor
  · intro before
    have kept := List.pair_sublist_mergeSort order.trans order.total before behind
    exact List.pairwise_iff_forall_sublist.mp sorted' (equal ▸ kept)
  · intro before
    have kept := List.pair_sublist_mergeSort order'.trans order'.total before behind
    exact List.pairwise_iff_forall_sublist.mp sorted (equal ▸ kept)

theorem eq_mergeSort_iff (order : Ranking le) {l : List α} :
    l = l.mergeSort le ↔ l.Pairwise fun a b => le a b = true := by
  constructor
  · intro equal
    have sorted := List.pairwise_mergeSort order.trans order.total l
    rwa [← equal] at sorted
  · intro sorted
    exact (List.mergeSort_of_pairwise sorted).symm

theorem perm_filter_iff {p q : α → Bool} {l : List α} :
    (l.filter p).Perm (l.filter q) ↔ ∀ a ∈ l, p a = q a := by
  refine ⟨fun perm a listed => ?_, fun same => ?_⟩
  · have alike := perm.mem_iff (a := a)
    simp only [List.mem_filter, listed, true_and] at alike
    exact Bool.eq_iff_iff.mpr alike
  · rw [List.filter_congr same]

theorem sorted_filter_iff (order : Ranking le) (order' : Ranking le') {p q : α → Bool} {l : List α} :
    (l.filter p).mergeSort le = (l.filter q).mergeSort le' ↔
      (∀ a ∈ l, p a = q a) ∧ (l.filter q).Pairwise fun a b => le a b = le' a b := by
  constructor
  · intro equal
    have perm : (l.filter p).Perm (l.filter q) :=
      (List.mergeSort_perm _ le).symm.trans (equal ▸ List.mergeSort_perm _ le')
    have same := perm_filter_iff.mp perm
    rw [List.filter_congr same] at equal
    exact ⟨same, (mergeSort_eq_iff order order').mp equal⟩
  · rintro ⟨same, pairs⟩
    rw [List.filter_congr same]
    exact mergeSort_congr pairs

theorem filter_eq_sorted_iff (order : Ranking le) {p q : α → Bool} {l : List α} :
    l.filter q = (l.filter p).mergeSort le ↔
      (∀ a ∈ l, p a = q a) ∧ (l.filter q).Pairwise fun a b => le a b = true := by
  constructor
  · intro equal
    have perm : (l.filter p).Perm (l.filter q) := equal ▸ (List.mergeSort_perm _ le).symm
    have same := perm_filter_iff.mp perm
    rw [List.filter_congr same] at equal
    exact ⟨same, (eq_mergeSort_iff order).mp equal⟩
  · rintro ⟨same, pairs⟩
    rw [List.filter_congr same]
    exact (eq_mergeSort_iff order).mpr pairs

end

namespace DecisionRow

def notLater (a b : DecisionRow) : Bool := a.recordedAt ≤ b.recordedAt
def stampNotLater (a b : DecisionRow) : Bool := a.recordedAt.toSortKey ≤ b.recordedAt.toSortKey

def stampWithin (start stop : Instant) (intersection : Option IntersectionId) (d : DecisionRow) : Bool :=
  TableStore.inWindow start stop intersection (TableStore.decisionRow d)

theorem notLater_ranking : Ranking notLater where
  trans a b c first second := by
    simp only [notLater, decide_eq_true_eq] at *
    exact le_trans first second
  total a b := by
    simp only [notLater, Bool.or_eq_true, decide_eq_true_eq]
    by_cases late : a.recordedAt < b.recordedAt
    · exact .inl (le_of_lt late)
    · exact .inr (not_lt.mp late)

theorem stampNotLater_ranking : Ranking stampNotLater where
  trans a b c first second := by
    simp only [stampNotLater, decide_eq_true_eq] at *
    exact String.le_trans first second
  total a b := by
    simp only [stampNotLater, Bool.or_eq_true, decide_eq_true_eq]
    exact String.le_total _ _

end DecisionRow

open DecisionRow

theorem TableStore.byStamp_map (ds : List DecisionRow) :
    byStamp (ds.map decisionRow) = (ds.mergeSort stampNotLater).map decisionRow := by
  rw [byStamp, List.map_mergeSort (r := stampNotLater)]
  intro a _ b _
  exact decide_eq_decide.mpr Iff.rfl

theorem TableStore.query_history (rs : List Record) (name : String) (start stop : Instant)
    (intersection : Option IntersectionId) (readable : ∀ r ∈ rs, r.Readable) :
    query (rs.foldl insert { name := name }) (.history start stop intersection) =
      .ok (.history (((rs.filterMap Record.decision?).filter (stampWithin start stop intersection)).mergeSort
        stampNotLater)) := by
  obtain ⟨_, _, decisions, _⟩ := readable_rows readable
  have rows : byStamp (((rs.filterMap Record.decision?).map decisionRow).filter
      (inWindow start stop intersection)) =
      (((rs.filterMap Record.decision?).filter (stampWithin start stop intersection)).mergeSort
        stampNotLater).map decisionRow := by
    have selected : inWindow start stop intersection ∘ decisionRow = stampWithin start stop intersection := by
      funext d
      rw [Function.comp_apply, stampWithin]
    rw [List.filter_map, byStamp_map, selected]
  have each : ∀ d ∈ ((rs.filterMap Record.decision?).filter (stampWithin start stop intersection)).mergeSort
      stampNotLater, DecisionRow.decode.ofText (decisionRow d).payload.toList = .ok d := by
    intro d listed
    have kept := List.mem_mergeSort.mp listed
    exact decisions d (List.mem_filter.mp kept).1
  have loaded := loadAll_map each
  rw [foldl_insert]
  simp only [query, List.nil_append, rows, loaded]
  rfl

namespace Store

variable (rs : List Record) (name : String) (start stop : Instant) (intersection : Option IntersectionId)

theorem log_history :
    (((Store.log { name := name }).fill rs).query (.history start stop intersection)).1 =
      .ok (.history ((rs.filterMap Record.decision?).filter (LogStore.within start stop intersection))) := by
  rw [fill_log _ rfl]
  rfl

theorem log_meets_iff :
    (((Store.log { name := name }).fill rs).query (.history start stop intersection)).1 =
        .ok (Query.reply rs (.history start stop intersection)) ↔
      ((rs.filterMap Record.decision?).filter (LogStore.within start stop intersection)).Pairwise
        fun a b => notLater a b = true := by
  rw [log_history, Query.reply, Except.ok.injEq, Reply.history.injEq]
  exact eq_mergeSort_iff notLater_ranking

variable {rs} (readable : ∀ r ∈ rs, r.Readable)

include readable

theorem tables_history :
    (((Store.tables { name := name }).fill rs).query (.history start stop intersection)).1 =
      .ok (.history (((rs.filterMap Record.decision?).filter (stampWithin start stop intersection)).mergeSort
        stampNotLater)) := by
  rw [fill_tables]
  exact TableStore.query_history rs name start stop intersection readable

theorem tables_meet_iff :
    (((Store.tables { name := name }).fill rs).query (.history start stop intersection)).1 =
        .ok (Query.reply rs (.history start stop intersection)) ↔
      (∀ d ∈ rs.filterMap Record.decision?,
        stampWithin start stop intersection d = LogStore.within start stop intersection d) ∧
      ((rs.filterMap Record.decision?).filter (LogStore.within start stop intersection)).Pairwise
        fun a b => stampNotLater a b = notLater a b := by
  rw [tables_history name start stop intersection readable, Query.reply, Except.ok.injEq, Reply.history.injEq]
  exact sorted_filter_iff stampNotLater_ranking notLater_ranking

theorem histories_agree_iff (name' : String) :
    (((Store.log { name := name' }).fill rs).query (.history start stop intersection)).1 =
        (((Store.tables { name := name }).fill rs).query (.history start stop intersection)).1 ↔
      (∀ d ∈ rs.filterMap Record.decision?,
        stampWithin start stop intersection d = LogStore.within start stop intersection d) ∧
      ((rs.filterMap Record.decision?).filter (LogStore.within start stop intersection)).Pairwise
        fun a b => stampNotLater a b = true := by
  rw [log_history, tables_history name start stop intersection readable, Except.ok.injEq, Reply.history.injEq]
  exact filter_eq_sorted_iff stampNotLater_ranking

end Store

namespace DecisionRow

theorem stampNotLater_iff {a b : DecisionRow} (yearA : a.recordedAt.FourDigit) (yearB : b.recordedAt.FourDigit) :
    stampNotLater a b = true ↔ a.recordedAt.truncated ≤ b.recordedAt.truncated := by
  rw [stampNotLater, decide_eq_true_eq, Instant.sortKey_le yearA yearB]

theorem stampNotLater_eq_iff {a b : DecisionRow} (yearA : a.recordedAt.FourDigit) (yearB : b.recordedAt.FourDigit) :
    stampNotLater a b = notLater a b ↔
      (a.recordedAt.truncated = b.recordedAt.truncated → a.recordedAt ≤ b.recordedAt) := by
  rw [Bool.eq_iff_iff, stampNotLater_iff yearA yearB, notLater, decide_eq_true_eq]
  constructor
  · intro same equal
    exact same.mp (equal ▸ le_refl _)
  · intro tie
    refine ⟨fun order => ?_, Instant.truncated_le⟩
    by_cases equal : a.recordedAt.truncated = b.recordedAt.truncated
    · exact tie equal
    · have earlier : a.recordedAt.truncated < b.recordedAt.truncated :=
        Decidable.not_not.mp fun late => equal (le_antisymm order (not_lt.mp late))
      exact Instant.le_of_truncated_lt earlier

theorem stampWithin_iff {start stop : Instant} {intersection : Option IntersectionId} {d : DecisionRow}
    (yearStart : start.FourDigit) (yearStop : stop.FourDigit) (year : d.recordedAt.FourDigit) :
    stampWithin start stop intersection d = LogStore.within start stop intersection d ↔
      (start.truncated ≤ d.recordedAt.truncated → d.recordedAt.truncated ≤ stop.truncated →
        intersection.all (d.intersection == ·) = true → start ≤ d.recordedAt ∧ d.recordedAt ≤ stop) := by
  have from_start : start.toSortKey ≤ d.recordedAt.toSortKey ↔ _ :=
    Instant.sortKey_le yearStart year
  have to_stop : d.recordedAt.toSortKey ≤ stop.toSortKey ↔ _ :=
    Instant.sortKey_le year yearStop
  have wider : start ≤ d.recordedAt → start.truncated ≤ d.recordedAt.truncated := Instant.truncated_le
  have wider' : d.recordedAt ≤ stop → d.recordedAt.truncated ≤ stop.truncated := Instant.truncated_le
  rw [Bool.eq_iff_iff]
  simp only [stampWithin, TableStore.inWindow, TableStore.decisionRow, TableStore.row, LogStore.within,
    Bool.and_eq_true, decide_eq_true_eq, from_start, to_stop]
  constructor
  · intro same first last own
    exact (same.mp ⟨⟨first, last⟩, own⟩).1
  · intro inside
    constructor
    · rintro ⟨⟨first, last⟩, own⟩
      exact ⟨inside first last own, own⟩
    · rintro ⟨⟨first, last⟩, own⟩
      exact ⟨⟨wider first, wider' last⟩, own⟩

end DecisionRow

def DecisionRow.jamAt (t : Instant) : DecisionRow :=
  ⟨"INT-A1", .normal, .congestion, .extendGreen, "congestion detected", .null, t⟩

theorem DecisionRow.jamAt_readable (t : Instant) : (Record.decision (jamAt t)).Readable := by
  refine .of_fits (r := .decision (jamAt t)) rfl (Json.read_compact ?_ (of_decide_eq_true rfl))
  exact ⟨trivial, trivial, trivial, trivial, trivial, trivial, trivial, trivial⟩

/-- A log answers in the order of the inserts, tables by stamps that are right to the microsecond. -/
theorem Store.histories_exact (rs : List Record) (log tables : String) (start stop : Instant)
    (intersection : Option IntersectionId) (readable : ∀ r ∈ rs, r.Readable) :
    let q : Query := .history start stop intersection
    let rows := rs.filterMap Record.decision?
    let asked := LogStore.within start stop intersection
    let stamped := stampWithin start stop intersection
    let byLog := (((Store.log { name := log }).fill rs).query q).1
    let byTables := (((Store.tables { name := tables }).fill rs).query q).1
    byLog = .ok (.history (rows.filter asked)) ∧
    byTables = .ok (.history ((rows.filter stamped).mergeSort stampNotLater)) ∧
    (byLog = .ok (q.reply rs) ↔ (rows.filter asked).Pairwise fun a b => notLater a b = true) ∧
    (byTables = .ok (q.reply rs) ↔ (∀ d ∈ rows, stamped d = asked d) ∧
      (rows.filter asked).Pairwise fun a b => stampNotLater a b = notLater a b) ∧
    (byLog = byTables ↔ (∀ d ∈ rows, stamped d = asked d) ∧
      (rows.filter asked).Pairwise fun a b => stampNotLater a b = true) ∧
    (start.FourDigit → stop.FourDigit → (∀ d ∈ rows, d.recordedAt.FourDigit) →
      (byTables = .ok (q.reply rs) ↔
        (∀ d ∈ rows, start.truncated ≤ d.recordedAt.truncated → d.recordedAt.truncated ≤ stop.truncated →
          intersection.all (d.intersection == ·) = true → start ≤ d.recordedAt ∧ d.recordedAt ≤ stop) ∧
        (rows.filter asked).Pairwise fun a b =>
          a.recordedAt.truncated = b.recordedAt.truncated → a.recordedAt ≤ b.recordedAt)) := by
  refine ⟨log_history .., tables_history _ _ _ _ readable, log_meets_iff .., tables_meet_iff _ _ _ _ readable,
    histories_agree_iff _ _ _ _ readable _, fun yearStart yearStop years => ?_⟩
  refine (tables_meet_iff _ _ _ _ readable).trans (and_congr ?_ ?_)
  · exact forall₂_congr fun d listed => stampWithin_iff yearStart yearStop (years d listed)
  · refine List.Pairwise.iff_of_mem fun {a b} first second => ?_
    exact stampNotLater_eq_iff (years a (List.mem_of_mem_filter first)) (years b (List.mem_of_mem_filter second))

theorem Store.histories_exact_in_order :
    let early : Instant := ⟨10, 0, by decide, by decide, by decide, by decide⟩
    let late : Instant := ⟨20, 0, by decide, by decide, by decide, by decide⟩
    let rs : List Record := [.decision (jamAt early), .decision (jamAt late)]
    let q : Query := .history .epoch late none
    (((Store.log { name := "primary" }).fill rs).query q).1 = .ok (.history [jamAt early, jamAt late]) ∧
    (((Store.tables { name := "replica" }).fill rs).query q).1 = .ok (q.reply rs) := by
  intro early late rs q
  have readable : ∀ r ∈ rs, r.Readable :=
    List.forall_mem_cons.mpr ⟨jamAt_readable _, List.forall_mem_singleton.mpr (jamAt_readable _)⟩
  obtain ⟨told, -, -, -, -, met⟩ := histories_exact rs "primary" "replica" .epoch late none readable
  refine ⟨told, (met (by decide) (by decide) ?_).mpr ⟨?_, ?_⟩⟩
  · decide
  · decide
  · decide

theorem Store.histories_disordered :
    let early : Instant := ⟨10, 0, by decide, by decide, by decide, by decide⟩
    let late : Instant := ⟨20, 0, by decide, by decide, by decide, by decide⟩
    let bound : Instant := ⟨10, 200, by decide, by decide, by decide, by decide⟩
    let stray : Instant := ⟨10, 500, by decide, by decide, by decide, by decide⟩
    let distant : Instant := ⟨253402300800, 0, by decide, by decide, by decide, by decide⟩
    let log (ts : List Instant) := (Store.log { name := "primary" }).fill (ts.map fun t => .decision (jamAt t))
    let tables (ts : List Instant) :=
      (Store.tables { name := "replica" }).fill (ts.map fun t => .decision (jamAt t))
    let due (ts : List Instant) (q : Query) := q.reply (ts.map fun t => .decision (jamAt t))
    let q : Query := .history .epoch late none
    let narrow : Query := .history .epoch bound none
    let wide : Query := .history .epoch .latest none
    ((log [late, early]).query q).1 ≠ .ok (due [late, early] q) ∧
    ((log [late, early]).query q).1 ≠ ((tables [late, early]).query q).1 ∧
    ((tables [stray]).query narrow).1 ≠ .ok (due [stray] narrow) ∧
    ((tables [distant]).query wide).1 ≠ .ok (due [distant] wide) := by
  intro early late bound stray distant log tables due q narrow wide
  have readable : ∀ ts : List Instant, ∀ r ∈ ts.map fun t => Record.decision (jamAt t), r.Readable := by
    intro ts r listed
    obtain ⟨t, _, rfl⟩ := List.mem_map.mp listed
    exact jamAt_readable t
  refine ⟨fun met => ?_, fun agreed => ?_, fun met => ?_, fun met => ?_⟩
  · have sorted := (log_meets_iff ..).mp met
    revert sorted
    decide
  · have sorted := ((histories_agree_iff _ _ _ _ (readable [late, early]) _).mp agreed).2
    revert sorted
    decide +kernel
  · have same := ((tables_meet_iff _ _ _ _ (readable [stray])).mp met).1
    revert same
    decide +kernel
  · have same := ((tables_meet_iff _ _ _ _ (readable [distant])).mp met).1
    revert same
    decide +kernel

end Signalgrid
