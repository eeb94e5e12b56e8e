import Signalgrid.Proofs.Archive.Routing
import Signalgrid.Proofs.Record.Chains
import Signalgrid.Proofs.Record.Texts

set_option autoImplicit false

namespace Signalgrid

open Record

namespace Store

/-- Kept here, not over a network, and taken in one after the other. -/
inductive Holds : Store → List Record → Prop where
  | log (l : LogStore) : Holds (.log l) l.records
  | tables (name : String) (rs : List Record) :
      Holds (.tables (rs.foldl TableStore.insert { name := name })) rs

def offer (s : Store) (rs : List Record) : Store := rs.foldl (fun s r => (s.insert r).2) s

def Accepts : Store → List Record → Prop
  | _, [] => True
  | s, r :: rest => (s.insert r).1.isOk = true ∧ (s.insert r).2.Accepts rest

def Ready : Store → Prop
  | .log l => l.available = true
  | .tables _ => True
  | .remote _ => False

theorem Ready.insert {s : Store} (ready : s.Ready) (r : Record) :
    (s.insert r).1.isOk = true ∧ (s.insert r).2.Ready := by
  cases s with
  | log l =>
    have available : l.available = true := ready
    simp [Store.insert, LogStore.insert, Ready, available, Except.isOk, Except.toBool]
  | tables t => exact ⟨rfl, trivial⟩
  | remote m => exact ready.elim

theorem Ready.accepts {s : Store} (ready : s.Ready) (rs : List Record) : s.Accepts rs := by
  induction rs generalizing s with
  | nil => trivial
  | cons r rest ih => exact ⟨(ready.insert r).1, ih (ready.insert r).2⟩

theorem Holds.insert {s : Store} {rs : List Record} (holds : s.Holds rs) {r : Record}
    (accepted : (s.insert r).1.isOk = true) : (s.insert r).2.Holds (rs ++ [r]) := by
  cases holds with
  | log l =>
    have stored := IsLog.insert_contents ⟨l, rfl⟩ r
    obtain ⟨l', kept⟩ := IsLog.insert ⟨l, rfl⟩ r
    rw [accepted, if_pos rfl, kept, contents_log, contents_log] at stored
    rw [kept, ← stored]
    exact .log l'
  | tables name =>
    have grown : (rs.foldl TableStore.insert { name := name }).insert r =
        (rs ++ [r]).foldl TableStore.insert { name := name } := by
      rw [List.foldl_append, List.foldl_cons, List.foldl_nil]
    rw [Store.insert, grown]
    exact .tables name _

theorem offer_keeps {kept : Store → Prop} (step : ∀ s r, kept s → kept (s.insert r).2) {s : Store}
    (start : kept s) (rs : List Record) : kept (s.offer rs) :=
  List.foldlRecOn rs _ start fun s there r _ => step s r there

theorem Holds.offer {s : Store} {old rs : List Record} (holds : s.Holds old) (accepts : s.Accepts rs) :
    (s.offer rs).Holds (old ++ rs) := by
  induction rs generalizing s old with
  | nil =>
    rw [List.append_nil]
    exact holds
  | cons r rest ih =>
    rw [List.append_cons]
    exact ih (holds.insert accepts.1) accepts.2

theorem Holds.insert_ready {s : Store} {rs : List Record} (holds : s.Holds rs) {r : Record}
    (accepted : (s.insert r).1.isOk = true) : s.Ready := by
  cases holds with
  | log l =>
    cases available : l.available with
    | true => exact available
    | false =>
      simp [Store.insert, LogStore.insert, available, Except.isOk, Except.toBool] at accepted
  | tables name => trivial

theorem Holds.insert_refused {s : Store} {rs : List Record} (holds : s.Holds rs) {r : Record}
    (refused : (s.insert r).1.isOk = false) : (s.insert r).2.Holds rs := by
  cases holds with
  | log l =>
    cases available : l.available with
    | true => simp [Store.insert, LogStore.insert, available, Except.isOk, Except.toBool] at refused
    | false =>
      simp only [Store.insert, LogStore.insert, available]
      exact .log l
  | tables name => cases refused

theorem Holds.contents {s : Store} {rs : List Record} (holds : s.Holds rs)
    (log : s.log?.isSome = true) : s.contents = rs := by
  cases holds with
  | log l => rfl
  | tables name => cases log

def latest? (s : Store) (id : IntersectionId) : Option Transition :=
  match (s.query (.lastChange id)).1 with
  | .ok (.lastChange t) => t
  | _ => none

end Store

theorem Record.changesOf_eq (id : IntersectionId) (rs : List Record) :
    changesOf id rs = (rs.filterMap Record.change?).filter (·.intersection == id) := by
  rw [changesOf, List.filter_filterMap]
  refine congrArg (List.filterMap · rs) (funext fun r => ?_)
  cases r with
  | change t => by_cases own : t.intersection = id <;> simp [changeOf?, Record.change?, Option.filter, own]
  | event r => rfl
  | decision d => rfl
  | action a => rfl

theorem TableStore.changes_of (t : TableStore) (rs : List Record) :
    (rs.foldl insert t).changes =
      t.changes ++ (rs.filterMap Record.change?).map fun c => row c.intersection "" c.moment c.encode := by
  induction rs generalizing t with
  | nil => simp
  | cons r rest ih =>
    rw [List.foldl_cons, ih]
    cases r <;> simp [insert, List.filterMap_cons, Record.change?]

theorem TableStore.load_change (t : Transition) :
    load Transition.decode (row t.intersection "" t.moment t.encode) = .ok t := by
  simp [load, row, t.ofText_compact, Except.mapError]

namespace Store

theorem Holds.latest {s : Store} {rs : List Record} (holds : s.Holds rs) (ready : rs ≠ [] → s.Ready)
    (id : IntersectionId) : s.latest? id = (changesOf id rs).getLast? := by
  cases holds with
  | log l =>
    cases available : l.available with
    | true =>
      rw [changesOf_eq, List.getLast?_filter, ← List.filterMap_reverse]
      simp [latest?, query, LogStore.query, LogStore.answer, available]
    | false =>
      have empty : l.records = [] := by
        refine Decidable.not_not.mp fun filled => ?_
        have there : l.available = true := ready filled
        rw [available] at there
        cases there
      simp [latest?, query, LogStore.query, available, empty]
  | tables name =>
    rw [changesOf_eq, List.getLast?_filter]
    have rows : ((rs.foldl TableStore.insert { name := name }).changes.reverse.find?
        (·.subject == id)) = ((rs.filterMap Record.change?).reverse.find? (·.intersection == id)).map
          fun c => TableStore.row c.intersection "" c.moment c.encode := by
      rw [TableStore.changes_of, List.nil_append, ← List.map_reverse, List.find?_map]
      rfl
    simp only [latest?, query, TableStore.query, rows]
    cases (rs.filterMap Record.change?).reverse.find? (·.intersection == id) with
    | none => simp
    | some told => simp [TableStore.load_change, bind, Except.bind]

end Store

end Signalgrid
