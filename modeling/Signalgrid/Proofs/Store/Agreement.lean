import Signalgrid.Proofs.Record.Codecs
import Signalgrid.Store.Basic

set_option autoImplicit false

namespace Signalgrid

namespace Record

def payload : Record → Json
  | .event r => r.encode
  | .change t => t.encode
  | .decision d => d.encode
  | .action a => a.encode

def Readable : Record → Prop
  | .event r => Reading.decode.ofText r.encode.compact.toList = .ok r
  | .change t => Transition.decode.ofText t.encode.compact.toList = .ok t
  | .decision d => DecisionRow.decode.ofText d.encode.compact.toList = .ok d
  | .action a => Override.decode.ofText a.encode.compact.toList = .ok a

theorem Readable.of_fits {r : Record} (fits : r.Fits)
    (legible : Json.read r.payload.compact.toList = some r.payload) : r.Readable := by
  cases r with
  | event r => exact (Reading.reads fits).ofText legible
  | change t => exact t.reads.ofText legible
  | decision d => exact (DecisionRow.reads fits).ofText legible
  | action a => exact a.reads.ofText legible

end Record

/-- Decisions oldest first, all else newest first. -/
def Query.reply (rs : List Record) : Query → Reply
  | .history start stop intersection =>
      .history (((rs.filterMap Record.decision?).filter (LogStore.within start stop intersection)).mergeSort
        fun a b => a.recordedAt ≤ b.recordedAt)
  | .events intersection limit =>
      .events (((rs.filterMap Record.event?).filter (·.intersection == intersection)).reverse.take limit)
  | .lastChange intersection =>
      .lastChange ((rs.filterMap Record.change?).filter (·.intersection == intersection)).getLast?
  | .overrides limit => .overrides ((rs.filterMap Record.action?).reverse.take limit)
  | .totals =>
      .totals
        { events := (rs.filterMap Record.event?).length
          congestions := ((rs.filterMap Record.decision?).filter (·.current = .congestion)).length
          greenWaves := ((rs.filterMap Record.action?).filter (·.kind = .greenWave)).length
          changes := (rs.filterMap Record.change?).length }

theorem Totals.foldl_add (rs : List Record) (t : Totals) :
    rs.foldl Totals.add t =
      { events := t.events + (rs.filterMap Record.event?).length
        congestions := t.congestions + ((rs.filterMap Record.decision?).filter (·.current = .congestion)).length
        greenWaves := t.greenWaves + ((rs.filterMap Record.action?).filter (·.kind = .greenWave)).length
        changes := t.changes + (rs.filterMap Record.change?).length } := by
  induction rs generalizing t with
  | nil => rfl
  | cons r rest ih =>
    rw [List.foldl_cons, ih]
    cases r with
    | event r | change t =>
      simp [Totals.add, Record.event?, Record.change?, Record.decision?, Record.action?, List.filterMap_cons]
      omega
    | decision d =>
      by_cases congested : d.current = .congestion
      · simp [Totals.add, Record.event?, Record.change?, Record.decision?, Record.action?, List.filterMap_cons,
          congested]
        omega
      · simp [Totals.add, Record.event?, Record.change?, Record.decision?, Record.action?, List.filterMap_cons,
          congested]
    | action a =>
      by_cases wave : a.kind = .greenWave
      · simp [Totals.add, Record.event?, Record.change?, Record.decision?, Record.action?, List.filterMap_cons,
          wave]
        omega
      · simp [Totals.add, Record.event?, Record.change?, Record.decision?, Record.action?, List.filterMap_cons,
          wave]

namespace TableStore

def eventRow (r : Reading) : Row := row r.intersection "" r.observedAt r.encode
def changeRow (t : Transition) : Row := row t.intersection "" t.moment t.encode
def decisionRow (d : DecisionRow) : Row := row d.intersection d.current.label d.recordedAt d.encode
def actionRow (a : Override) : Row := row a.kind.label "" a.requestedAt a.encode

theorem foldl_insert (rs : List Record) (t : TableStore) :
    rs.foldl insert t =
      { name := t.name
        events := t.events ++ (rs.filterMap Record.event?).map eventRow
        changes := t.changes ++ (rs.filterMap Record.change?).map changeRow
        decisions := t.decisions ++ (rs.filterMap Record.decision?).map decisionRow
        actions := t.actions ++ (rs.filterMap Record.action?).map actionRow } := by
  induction rs generalizing t with
  | nil => simp
  | cons r rest ih =>
    rw [List.foldl_cons, ih]
    cases r <;>
      simp [insert, Record.event?, Record.change?, Record.decision?, Record.action?, List.filterMap_cons,
        eventRow, changeRow, decisionRow, actionRow]

theorem readable_rows {rs : List Record} (readable : ∀ r ∈ rs, r.Readable) :
    (∀ r ∈ rs.filterMap Record.event?, Reading.decode.ofText (eventRow r).payload.toList = .ok r) ∧
    (∀ t ∈ rs.filterMap Record.change?, Transition.decode.ofText (changeRow t).payload.toList = .ok t) ∧
    (∀ d ∈ rs.filterMap Record.decision?, DecisionRow.decode.ofText (decisionRow d).payload.toList = .ok d) ∧
    ∀ a ∈ rs.filterMap Record.action?, Override.decode.ofText (actionRow a).payload.toList = .ok a := by
  refine ⟨?_, ?_, ?_, ?_⟩ <;> refine List.forall_mem_filterMap.mpr fun r listed a told => ?_
  all_goals
    have read := readable r listed
    cases r <;> cases told
    exact read

theorem load_ok {α : Type} {d : Decoder α} {r : Row} {a : α} (read : d.ofText r.payload.toList = .ok a) :
    load d r = .ok a := by
  rw [load, read]
  rfl

theorem loadAll_map {α : Type} {d : Decoder α} {f : α → Row} {as : List α}
    (each : ∀ a ∈ as, d.ofText (f a).payload.toList = .ok a) : loadAll d (as.map f) = .ok as := by
  induction as with
  | nil => rfl
  | cons a rest ih =>
    have later : loadAll d (rest.map f) = .ok rest := ih fun b listed => each b (.tail _ listed)
    rw [loadAll] at later ⊢
    simp [load_ok (each a List.mem_cons_self), later, bind, Except.bind, pure, Except.pure]

theorem newest_map {α : Type} (f : α → Row) (limit : Nat) {as : List α} (room : as.length ≤ maxLimit) :
    newest limit (as.map f) = (as.reverse.take limit).map f := by
  have capped : as.reverse.take (min limit maxLimit) = as.reverse.take limit := by
    rcases Nat.le_total limit maxLimit with small | large
    · rw [Nat.min_eq_left small]
    · have whole : as.reverse.length ≤ maxLimit := by rwa [List.length_reverse]
      rw [Nat.min_eq_right large, List.take_of_length_le whole, List.take_of_length_le (whole.trans large)]
  rw [newest, ← List.map_reverse, ← List.map_take, capped]

end TableStore

namespace Store

def fill (s : Store) (rs : List Record) : Store := rs.foldl (fun s r => (s.insert r).2) s

theorem fill_log (l : LogStore) (available : l.available = true) (rs : List Record) :
    (Store.log l).fill rs =
      .log { l with records := l.records ++ rs, totals := rs.foldl Totals.add l.totals } := by
  induction rs generalizing l with
  | nil => simp [fill]
  | cons r rest ih =>
    have taken : ((Store.log l).insert r).2 =
        .log { l with records := l.records ++ [r], totals := l.totals.add r } := by
      simp [insert, LogStore.insert, available]
    rw [fill, List.foldl_cons, taken, ← fill]
    rw [ih { l with records := l.records ++ [r], totals := l.totals.add r } available]
    simp

theorem fill_tables (t : TableStore) (rs : List Record) :
    (Store.tables t).fill rs = .tables (rs.foldl TableStore.insert t) := by
  induction rs generalizing t with
  | nil => rfl
  | cons r rest ih => exact ih (t.insert r)

end Store

def Query.isHistory : Query → Bool
  | .history .. => true
  | _ => false

variable {rs : List Record} {q : Query}

theorem LogStore.answer_reply (name : String) (other : q.isHistory = false) :
    answer { name := name, records := rs, totals := rs.foldl Totals.add {} } q = q.reply rs := by
  cases q with
  | history start stop intersection => cases other
  | events intersection limit => simp [answer, Query.reply, List.filterMap_reverse, List.filter_reverse]
  | lastChange intersection => simp [answer, Query.reply, List.filterMap_reverse, List.getLast?_filter]
  | overrides limit => simp [answer, Query.reply, List.filterMap_reverse]
  | totals => simp [answer, Query.reply, Totals.foldl_add]

theorem TableStore.totals_foldl (name : String) (rs : List Record) :
    totals (rs.foldl insert { name := name }) = Totals.ofRecords rs := by
  have congested : (fun d : DecisionRow => (decisionRow d).state == TrafficKind.congestion.label) =
      fun d => decide (d.current = .congestion) := by
    funext d
    cases current : d.current <;> simp [decisionRow, row, current, TrafficKind.label]
  have waves : (fun a : Override => (actionRow a).subject == OverrideKind.greenWave.label) =
      fun a => decide (a.kind = .greenWave) := by
    funext a
    cases kind : a.kind <;> simp [actionRow, row, kind, OverrideKind.label]
  rw [foldl_insert, Totals.ofRecords, Totals.foldl_add]
  simp only [totals, count, List.nil_append, List.filter_map, List.length_map, Function.comp_def,
    congested, waves, Nat.zero_add]

theorem TableStore.query_reply (name : String) (readable : ∀ r ∈ rs, r.Readable)
    (room : rs.length ≤ maxLimit) (other : q.isHistory = false) :
    query (rs.foldl insert { name := name }) q = .ok (q.reply rs) := by
  obtain ⟨events, changes, _, actions⟩ := readable_rows readable
  rw [foldl_insert]
  simp only [List.nil_append]
  cases q with
  | history start stop intersection => cases other
  | events intersection limit =>
    have rows : ((rs.filterMap Record.event?).map eventRow).filter (·.subject == intersection) =
        ((rs.filterMap Record.event?).filter (·.intersection == intersection)).map eventRow :=
      List.filter_map
    have short : ((rs.filterMap Record.event?).filter (·.intersection == intersection)).length ≤ maxLimit :=
      (List.length_filter_le _ _).trans ((List.length_filterMap_le _ _).trans room)
    have loaded : loadAll Reading.decode ((((rs.filterMap Record.event?).filter
        (·.intersection == intersection)).reverse.take limit).map eventRow) = .ok _ :=
      loadAll_map fun r there =>
        events r (List.mem_of_mem_filter (List.mem_reverse.mp (List.mem_of_mem_take there)))
    simp only [query, rows, newest_map eventRow limit short, loaded]
    rfl
  | lastChange intersection =>
    have found : ((rs.filterMap Record.change?).map changeRow).reverse.find? (·.subject == intersection) =
        ((rs.filterMap Record.change?).filter (·.intersection == intersection)).getLast?.map changeRow := by
      rw [← List.map_reverse, List.find?_map, List.getLast?_filter]
      rfl
    simp only [query, found, Query.reply]
    cases last : ((rs.filterMap Record.change?).filter (·.intersection == intersection)).getLast? with
    | none => rfl
    | some t =>
      have loaded := load_ok (changes t (List.mem_of_mem_filter (List.mem_of_getLast? last)))
      simp only [Option.map_some, loaded]
      rfl
  | overrides limit =>
    have short : (rs.filterMap Record.action?).length ≤ maxLimit :=
      (List.length_filterMap_le _ _).trans room
    have loaded : loadAll Override.decode (((rs.filterMap Record.action?).reverse.take limit).map actionRow) =
        .ok _ :=
      loadAll_map fun a there => actions a (List.mem_reverse.mp (List.mem_of_mem_take there))
    simp only [query, newest_map actionRow limit short, loaded]
    rfl
  | totals =>
    have counted := totals_foldl name rs
    rw [foldl_insert] at counted
    simp only [List.nil_append] at counted
    rw [query, counted, Totals.ofRecords, Totals.foldl_add]
    simp only [Query.reply, Nat.zero_add]

/-- A log and tables answer every query alike, but one for a history. -/
theorem Store.local_answers_agree (rs : List Record) (log tables : String) (q : Query)
    (other : q.isHistory = false) (readable : ∀ r ∈ rs, r.Readable)
    -- No table has more rows than there are ids to number them.
    (room : rs.length ≤ TableStore.maxLimit) :
    (((Store.log { name := log }).fill rs).query q).1 = .ok (q.reply rs) ∧
    (((Store.tables { name := tables }).fill rs).query q).1 = .ok (q.reply rs) := by
  constructor
  · rw [fill_log _ rfl]
    exact congrArg Except.ok (LogStore.answer_reply log other)
  · rw [fill_tables]
    exact TableStore.query_reply tables readable room other

theorem Store.local_answers_agree_mixed :
    let first : Reading := ⟨"INT-A1", "ESP-A1", .epoch, .vehicles 3 .epoch .epoch⟩
    let second : Reading := ⟨"INT-A1", "ESP-A1", .epoch, .vehicles 4 .epoch .epoch⟩
    let jam : DecisionRow := ⟨"INT-A1", .normal, .congestion, .extendGreen, "queue", .null, .epoch⟩
    let wave : Override := ⟨.greenWave, "row A", "ambulance", "operator", ["INT-A1"], .epoch⟩
    let rs : List Record := [.event first, .decision jam, .event second, .action wave]
    let log := (Store.log { name := "primary" }).fill rs
    let tables := (Store.tables { name := "replica" }).fill rs
    (log.query (.events "INT-A1" 18446744073709551615)).1 = .ok (.events [second, first]) ∧
    (tables.query (.events "INT-A1" 18446744073709551615)).1 = .ok (.events [second, first]) ∧
    (tables.query (.overrides 0)).1 = .ok (.overrides []) ∧
    (tables.query (.lastChange "INT-A1")).1 = .ok (.lastChange none) ∧
    (log.query .totals).1 = .ok (.totals ⟨2, 1, 1, 0⟩) ∧
    (tables.query .totals).1 = .ok (.totals ⟨2, 1, 1, 0⟩) := by
  intro first second jam wave rs log tables
  have three : (Json.int 3).Legible := fun _ => ⟨_, rfl, rfl⟩
  have four : (Json.int 4).Legible := fun _ => ⟨_, rfl, rfl⟩
  have readable : ∀ r ∈ rs, r.Readable := by
    simp only [rs, List.forall_mem_cons]
    refine ⟨?_, ?_, ?_, ?_, List.forall_mem_nil _⟩
    · refine .of_fits (r := .event first) (by decide : 3 < 4294967296) (Json.read_compact ?_ (by decide))
      exact ⟨trivial, trivial, trivial, ⟨trivial, three, trivial, trivial, trivial⟩, trivial⟩
    · refine .of_fits (r := .decision jam) rfl (Json.read_compact ?_ (by decide))
      exact ⟨trivial, trivial, trivial, trivial, trivial, trivial, trivial, trivial⟩
    · refine .of_fits (r := .event second) (by decide : 4 < 4294967296) (Json.read_compact ?_ (by decide))
      exact ⟨trivial, trivial, trivial, ⟨trivial, four, trivial, trivial, trivial⟩, trivial⟩
    · refine .of_fits (r := .action wave) trivial (Json.read_compact ?_ (by decide))
      exact ⟨trivial, trivial, trivial, trivial, ⟨trivial, trivial⟩, trivial, trivial⟩
  have room : rs.length ≤ TableStore.maxLimit := by decide
  have told (q : Query) (other : q.isHistory = false) :=
    local_answers_agree rs "primary" "replica" q other readable room
  exact ⟨(told _ rfl).1, (told _ rfl).2, (told (.overrides 0) rfl).2, (told _ rfl).2, (told .totals rfl).1,
    (told .totals rfl).2⟩

end Signalgrid
