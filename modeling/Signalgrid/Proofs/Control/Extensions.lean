import Signalgrid.Proofs.Control.History

set_option autoImplicit false

namespace Signalgrid

def Transition.Extends (id : IntersectionId) (t : Transition) : Prop :=
  t.intersection = id ∧ t.reason = Cause.congestion.label

instance (id : IntersectionId) (t : Transition) : Decidable (t.Extends id) :=
  inferInstanceAs (Decidable (_ ∧ _))

def DecisionRow.Interrupts (row : DecisionRow) : Prop :=
  row.action = .forceChange ∨ row.action = .greenWave ∨ row.previous ≠ .normal ∧ row.current = .normal

instance (row : DecisionRow) : Decidable row.Interrupts := inferInstanceAs (Decidable (_ ∨ _ ∨ _))

namespace Record

section

variable (id : IntersectionId) (seconds : Nat)

/-- When the extensions end that have been recorded and not put aside since. -/
def pending (ends : List Instant) : Record → List Instant
  | .change t => if t.Extends id then t.moment.after seconds :: ends else ends
  | .decision row => if row.intersection = id ∧ row.Interrupts then [] else ends
  | _ => ends

/-- No extension is recorded before all those that stand have ended. -/
def Spaced : List Instant → List Record → Prop
  | _, [] => True
  | ends, r :: rest =>
      (∀ t, r = .change t → t.Extends id → ∀ u ∈ ends, u ≤ t.moment) ∧
        Spaced (pending id seconds ends r) rest

end

theorem change?_eq_some {r : Record} {t : Transition} (found : r.change? = some t) : r = .change t := by
  cases r <;> simp_all [change?]

variable {id : IntersectionId} {seconds : Nat} {ends : List Instant}

theorem spaced_append {rs more : List Record} :
    Spaced id seconds ends (rs ++ more) ↔
      Spaced id seconds ends rs ∧ Spaced id seconds (rs.foldl (pending id seconds) ends) more := by
  induction rs generalizing ends with
  | nil => simp [Spaced]
  | cons r rest ih => simp only [List.cons_append, Spaced, List.foldl_cons, ih, and_assoc]

theorem mem_pending {u : Instant} {rs : List Record} (stands : u ∈ rs.foldl (pending id seconds) ends) :
    u ∈ ends ∨ ∃ t, .change t ∈ rs ∧ t.Extends id ∧ u = t.moment.after seconds := by
  induction rs generalizing ends with
  | nil => exact .inl stands
  | cons r rest ih =>
    rcases ih stands with first | ⟨t, told, extension, same⟩
    · cases r with
      | change t =>
        simp only [pending] at first
        split at first
        next extension =>
          rcases List.mem_cons.mp first with rfl | old
          · exact .inr ⟨t, List.mem_cons_self, extension, rfl⟩
          · exact .inl old
        next => exact .inl first
      | decision row =>
        simp only [pending] at first
        split at first
        · cases first
        · exact .inl first
      | event r => exact .inl first
      | action a => exact .inl first
    · exact .inr ⟨t, List.mem_cons_of_mem _ told, extension, same⟩

theorem pending_stands {u : Instant} (stands : u ∈ ends) {rs : List Record}
    (kept : ∀ row ∈ decisionsOf id rs, ¬ row.Interrupts) : u ∈ rs.foldl (pending id seconds) ends := by
  induction rs generalizing ends with
  | nil => exact stands
  | cons r rest ih =>
    have later : ∀ row ∈ decisionsOf id rest, ¬ row.Interrupts := by
      intro row member
      apply kept row
      exact (List.sublist_cons_self r rest).filterMap (decisionOf? id) |>.subset member
    apply ih _ later
    cases r with
    | change t =>
      simp only [pending]
      split
      · exact List.mem_cons_of_mem _ stands
      · exact stands
    | decision row =>
      simp only [pending]
      split
      next cut =>
        have member : row ∈ decisionsOf id (.decision row :: rest) := by
          simp [decisionsOf, decisionOf?, cut.1]
        exact absurd cut.2 (kept row member)
      next => exact stands
    | event r => exact stands
    | action a => exact stands

theorem Spaced.between {first second : Transition} {before middle after : List Record}
    (spaced : Spaced id seconds ends (before ++ .change first :: (middle ++ .change second :: after)))
    (extension : first.Extends id) (again : second.Extends id)
    (early : second.moment < first.moment.after seconds) :
    ∃ row ∈ decisionsOf id middle, row.Interrupts := by
  by_contra undisturbed
  obtain ⟨_, _, rest⟩ := spaced_append.mp spaced
  obtain ⟨_, due, _⟩ := spaced_append.mp rest
  have stands : first.moment.after seconds ∈
      middle.foldl (pending id seconds) (pending id seconds
        (before.foldl (pending id seconds) ends) (.change first)) := by
    apply pending_stands
    · simp [pending, extension]
    · exact fun row member interrupts => undisturbed ⟨row, member, interrupts⟩
  exact not_lt.mpr (due second rfl again _ stands) early

end Record

open Record

structure Paced (id : IntersectionId) (seconds : Nat) (now : Instant) (before : Instant → Prop)
    (rs : List Record) (after : Instant → Prop) : Prop where
  told : ∀ row, .decision row ∈ rs → row.intersection = id → row.action = .extendGreen →
    ∃ t, .change t ∈ rs ∧ t.Extends id ∧ t.moment = row.recordedAt
  dated : ∀ t, .change t ∈ rs → t.Extends id → t.moment = now ∧ t.timer = some (now.after seconds)
  spaced : ∀ ends, (∀ u ∈ ends, now < u → before u) →
    Spaced id seconds ends rs ∧ ∀ u ∈ rs.foldl (pending id seconds) ends, now < u → after u

namespace Paced

variable {id : IntersectionId} {seconds : Nat} {now : Instant} {p q r : Instant → Prop}
  {rs more : List Record}

theorem trans (first : Paced id seconds now p rs q) (second : Paced id seconds now q more r) :
    Paced id seconds now p (rs ++ more) r where
  told row member own lengthens := by
    rcases List.mem_append.mp member with front | back
    · obtain ⟨t, member, same⟩ := first.told row front own lengthens
      exact ⟨t, List.mem_append_left _ member, same⟩
    · obtain ⟨t, member, same⟩ := second.told row back own lengthens
      exact ⟨t, List.mem_append_right _ member, same⟩
  dated t member extension := by
    rcases List.mem_append.mp member with front | back
    · exact first.dated t front extension
    · exact second.dated t back extension
  spaced ends stands := by
    obtain ⟨front, middle⟩ := first.spaced ends stands
    obtain ⟨back, last⟩ := second.spaced _ middle
    rw [spaced_append, List.foldl_append]
    exact ⟨⟨front, back⟩, last⟩

theorem imp {p' q' : Instant → Prop} (paced : Paced id seconds now p rs q)
    (before : ∀ u, now < u → p' u → p u) (after : ∀ u, now < u → q u → q' u) :
    Paced id seconds now p' rs q' where
  told := paced.told
  dated := paced.dated
  spaced ends stands := by
    obtain ⟨spaced, left⟩ := paced.spaced ends fun u member ahead =>
      before u ahead (stands u member ahead)
    exact ⟨spaced, fun u member ahead => after u ahead (left u member ahead)⟩

theorem quiet (unextended : ∀ t, .change t ∈ rs → ¬ t.Extends id)
    (undecided : ∀ row, .decision row ∈ rs → row.intersection = id → row.action ≠ .extendGreen)
    (kept : ∀ u, now < u → p u → q u) : Paced id seconds now p rs q where
  told row member own lengthens := absurd lengthens (undecided row member own)
  dated t member extension := absurd extension (unextended t member)
  spaced ends stands := by
    have left : ∀ u ∈ ends, now < u → q u := fun u member ahead => kept u ahead (stands u member ahead)
    clear stands undecided
    induction rs generalizing ends with
    | nil => exact ⟨trivial, left⟩
    | cons r rest ih =>
      have later : ∀ t, .change t ∈ rest → ¬ t.Extends id := fun t member =>
        unextended t (List.mem_cons_of_mem _ member)
      have fewer : pending id seconds ends r ⊆ ends := by
        cases r with
        | change t => simp [pending, unextended t (by simp)]
        | decision row =>
          simp only [pending]
          split <;> simp
        | event r => exact List.Subset.refl _
        | action a => exact List.Subset.refl _
      obtain ⟨spaced, last⟩ := ih later (pending id seconds ends r) fun u member => left u (fewer member)
      refine ⟨⟨fun t same extension => ?_, spaced⟩, last⟩
      subst same
      exact absurd extension (unextended t (by simp))

theorem nothing (kept : ∀ u, now < u → p u → q u) : Paced id seconds now p [] q :=
  quiet (by simp) (by simp) kept

theorem interrupted {row : DecisionRow} (own : row.intersection = id) (interrupts : row.Interrupts)
    (otherwise : row.action ≠ .extendGreen) : Paced id seconds now p [.decision row] q where
  told row' member _ lengthens := by
    cases List.mem_singleton.mp member
    exact absurd lengthens otherwise
  dated t member := by simp at member
  spaced ends _ := by simp [Spaced, pending, own, interrupts]

theorem extended {t : Transition} {row : DecisionRow} (idle : ∀ u, now < u → ¬ p u)
    (extension : t.Extends id) (moment : t.moment = now) (timer : t.timer = some (now.after seconds))
    (decided : row.recordedAt = now) (new : q (now.after seconds)) :
    Paced id seconds now p [.change t, .decision row] q where
  told row' member _ _ := by
    obtain rfl : row' = row := by simpa using member
    exact ⟨t, List.mem_cons_self, extension, moment.trans decided.symm⟩
  dated t' member _ := by
    obtain rfl : t' = t := by simpa using member
    exact ⟨moment, timer⟩
  spaced ends stands := by
    have past : ∀ u ∈ ends, ¬ now < u := fun u member ahead => idle u ahead (stands u member ahead)
    constructor
    · refine ⟨fun t' same _ u member => ?_, by simp, trivial⟩
      cases same
      rw [moment]
      exact not_lt.mp (past u member)
    · intro u member ahead
      have among : u ∈ now.after seconds :: ends := by
        simp only [List.foldl_cons, List.foldl_nil, pending, extension, if_true, moment] at member
        split at member
        · cases member
        · exact member
      rcases List.mem_cons.mp among with rfl | old
      · exact new
      · exact absurd ahead (past u old)

end Paced

namespace Signal

theorem tick_reason (cycle : Span) (id : IntersectionId) (s : Signal) (now : Instant) :
    ∀ t ∈ (s.tick cycle id now).2, t.reason = "cycle" := by
  simp only [tick, turn]
  split_ifs <;> simp

theorem apply_unchanged {s : Signal} {c : Command} (unchanged : (s.apply c).2 = none) :
    (s.apply c).1 = s := by
  simp only [apply] at unchanged ⊢
  split at unchanged
  next repeated => rw [if_pos repeated]
  next => cases unchanged

theorem apply_reason (s : Signal) (c : Command) : ∀ t ∈ (s.apply c).2, t.reason = c.cause.label := by
  simp only [apply]
  split
  · simp
  · simp

end Signal

def Cell.ExtendedUntil (c : Cell) (u : Instant) : Prop :=
  c.signal.mode = .timed u .congestion ∧ c.traffic.kind = .congestion

namespace Pass

def KeepsPace (id : IntersectionId) (seconds : Nat) (now : Instant) (p q : Pass) : Prop :=
  ∃ more, q.records = p.records ++ more ∧
    Paced id seconds now p.cell.ExtendedUntil more q.cell.ExtendedUntil

variable {id : IntersectionId} {seconds : Nat} {now : Instant} {p q r : Pass}

theorem KeepsPace.trans (first : p.KeepsPace id seconds now q) (second : q.KeepsPace id seconds now r) :
    p.KeepsPace id seconds now r := by
  obtain ⟨rs, records, paced⟩ := first
  obtain ⟨more, records', paced'⟩ := second
  exact ⟨rs ++ more, by rw [records', records, List.append_assoc], paced.trans paced'⟩

theorem evaluate_records {policy : Policy} {traffic : Traffic} {e : Evaluation}
    (judged : p.cell.traffic.evaluate policy id p.cell.snapshot (p.cell.signal.extending now) now =
      (traffic, some e)) :
    (p.evaluate policy id now).1.records = (p.obey e.command).records ++
      [.decision ⟨id, e.previous, e.current, e.action, e.details, p.cell.snapshot.metrics, now⟩] := by
  simp only [evaluate, judged, settle_obey]
  split <;> simp [decide, settle, resume]

variable (policy : Policy)

theorem tick_paced (p : Pass) :
    p.KeepsPace id policy.timings.extensionSeconds now (p.tick policy id now) := by
  refine ⟨(p.cell.signal.tick policy.cycle id now).2.toList.map .change, p.note_records _ _,
    .quiet ?_ (by simp) ?_⟩
  · intro t member extension
    obtain ⟨t', told, same⟩ := List.mem_map.mp member
    cases same
    have reason := Signal.tick_reason policy.cycle id p.cell.signal now t (Option.mem_toList.mp told)
    exact absurd (extension.2.symm.trans reason) (by decide)
  · intro u ahead extended
    simp only [Cell.ExtendedUntil, tick_cell] at extended ⊢
    rw [Signal.tick_early policy.cycle id extended.1 ahead]
    exact extended

theorem evaluate_extension_paced {traffic : Traffic} {previous : TrafficKind} {details : String}
    (judged : p.cell.traffic.evaluate policy id p.cell.snapshot (p.cell.signal.extending now) now =
      (traffic, some (Traffic.extension policy id previous now details)))
    (congested : traffic.kind = .congestion) (idle : ∀ u, now < u → ¬ p.cell.ExtendedUntil u) :
    p.KeepsPace id policy.timings.extensionSeconds now (p.evaluate policy id now).1 := by
  let c : Command := ⟨id, .green, .congestion, some policy.timings.extensionSeconds, now⟩
  have changed := p.cell.signal.apply_timed (c := c) rfl
  have records := evaluate_records judged
  simp only [Traffic.extension, obey, command, note_records] at records
  rw [changed, List.append_assoc] at records
  refine ⟨_, records, .extended idle ⟨rfl, rfl⟩ rfl rfl rfl ?_⟩
  rw [evaluate_extension judged]
  exact ⟨Signal.apply_mode .., congested⟩

theorem evaluate_calm_paced {traffic : Traffic} {previous : TrafficKind} {resume : Bool}
    {details : String} (away : previous ≠ .normal)
    (judged : p.cell.traffic.evaluate policy id p.cell.snapshot (p.cell.signal.extending now) now =
      (traffic, some (Traffic.calm previous resume details))) :
    p.KeepsPace id policy.timings.extensionSeconds now (p.evaluate policy id now).1 :=
  ⟨_, evaluate_records judged, .interrupted rfl (.inr (.inr ⟨away, rfl⟩)) nofun⟩

theorem evaluate_paced (p : Pass) :
    p.KeepsPace id policy.timings.extensionSeconds now (p.evaluate policy id now).1 := by
  have judged := p.cell.traffic.evaluate_judged policy id p.cell.snapshot
    (p.cell.signal.extending now) now
  generalize policy.thresholds.judge p.cell.snapshot = verdict at judged
  generalize decided : p.cell.traffic.evaluate policy id p.cell.snapshot (p.cell.signal.extending now)
    now = outcome at judged
  cases judged with
  | unmoved =>
    rw [evaluate_unmoved decided]
    exact ⟨[], (List.append_nil _).symm, .nothing fun _ _ kept => kept⟩
  | waveOver _ wave =>
    have away : TrafficKind.greenWave ≠ .normal := by decide
    cases verdict with
    | congestion =>
      apply evaluate_extension_paced policy decided rfl
      intro u _ extended
      cases wave.symm.trans extended.2
    | normal => exact evaluate_calm_paced policy away decided
    | inconclusive => exact evaluate_calm_paced policy away decided
  | detected normal =>
    apply evaluate_extension_paced policy decided rfl
    intro u _ extended
    cases normal.symm.trans extended.2
  | persisting congested idle =>
    apply evaluate_extension_paced policy decided congested
    intro u ahead extended
    simp [Signal.extending, extended.1, ahead] at idle
  | relieved congested =>
    apply evaluate_calm_paced policy _ decided
    simp [congested]

theorem command_unextended (p : Pass) {c : Command} (cause : c.cause ≠ .congestion) :
    ∀ t, .change t ∈ (p.cell.signal.apply c).2.toList.map Record.change → ¬ t.Extends id := by
  intro t member extension
  obtain ⟨t', told, same⟩ := List.mem_map.mp member
  cases same
  have reason := p.cell.signal.apply_reason c t (Option.mem_toList.mp told)
  have label := reason.symm.trans extension.2
  cases given : c.cause <;> simp_all [Cause.label]

theorem decide_paced {q : Pass} {c : Command} {e : Evaluation} (details : String)
    (cause : c.cause ≠ .congestion) (records : q.records = (p.command c).1.records)
    (interrupts : e.action = .forceChange ∨ e.action = .greenWave) :
    p.KeepsPace id seconds now (q.decide id e details now) := by
  have told : (q.decide id e details now).records = p.records ++
      ((p.cell.signal.apply c).2.toList.map .change ++
        [.decision ⟨id, e.previous, e.current, e.action, details, q.cell.snapshot.metrics, now⟩]) := by
    simp only [decide, records, command, note_records, List.append_assoc]
  have commanded : Paced id seconds now p.cell.ExtendedUntil
      ((p.cell.signal.apply c).2.toList.map .change) fun _ => True :=
    .quiet (p.command_unextended cause) (by simp) fun _ _ _ => trivial
  have otherwise : e.action ≠ .extendGreen := by
    rcases interrupts with action | action <;> simp [action]
  exact ⟨_, told, commanded.trans (.interrupted rfl (interrupts.imp_right .inl) otherwise)⟩

theorem command_paced {c : Command} (unchanged : (p.cell.signal.apply c).2 = none) :
    p.KeepsPace id seconds now (p.command c).1 := by
  refine ⟨[], by simp [command, note_records, unchanged], .nothing fun u _ extended => ?_⟩
  simpa [Cell.ExtendedUntil, Signal.apply_unchanged unchanged] using extended

end Pass

namespace Cell

variable (policy : Policy) {id : IntersectionId} {now : Instant}

theorem paced_of_pass {c : Cell} {p q : Pass} {seconds : Nat} (fresh : p.records = [])
    (signal : p.cell.signal = c.signal) (traffic : p.cell.traffic = c.traffic)
    (paced : p.KeepsPace id seconds now q) :
    Paced id seconds now c.ExtendedUntil q.records q.cell.ExtendedUntil := by
  obtain ⟨more, records, paced⟩ := paced
  rw [records, fresh]
  refine paced.imp (fun u _ extended => ?_) fun u _ extended => extended
  simpa only [ExtendedUntil, signal, traffic] using extended

theorem act_paced {a : CellAct} (about : a.About id) (c : Cell) :
    Paced id policy.timings.extensionSeconds now c.ExtendedUntil (c.act policy id now a).records
      (c.act policy id now a).cell.ExtendedUntil := by
  cases a with
  | ingest r =>
    obtain rfl := about
    have ticked := @Pass.tick_paced r.intersection now policy
      { cell := { c with snapshot := c.snapshot.fold r } }
    apply paced_of_pass (p := { cell := { c with snapshot := c.snapshot.fold r } }) rfl rfl rfl
    simp only [act, ingest]
    split
    · exact ticked.trans (Pass.evaluate_paced policy _)
    · exact ticked
  | sweep =>
    have ticked := @Pass.tick_paced id now policy { cell := c }
    apply paced_of_pass (p := { cell := c }) rfl rfl rfl
    simp only [act, sweep]
    split
    · exact ticked.trans (Pass.evaluate_paced policy _)
    · exact ticked
  | wave reason =>
    have ticked := @Pass.tick_paced id now policy { cell := c }
    apply paced_of_pass (p := { cell := c }) rfl rfl rfl
    simp only [act, wave, Pass.settle_obey]
    let c : Command := ⟨id, .green, .priority, some policy.timings.waveSeconds, now⟩
    exact ticked.trans (Pass.decide_paced _ (c := c) (by simp [c]) rfl (.inr rfl))
  | hold color =>
    have ticked := @Pass.tick_paced id now policy { cell := c }
    apply paced_of_pass (p := { cell := c }) rfl rfl rfl
    simp only [act, hold]
    split
    next =>
      let c : Command := ⟨id, color, .manual, none, now⟩
      exact ticked.trans (Pass.decide_paced _ (c := c) (by simp [c]) rfl (.inl rfl))
    next unapplied => exact ticked.trans (Pass.command_paced (by simpa [Pass.command] using unapplied))
  | stall seen =>
    refine .nothing fun u ahead extended => ⟨?_, extended.2⟩
    simp only [act, stall, Signal.lapse, extended.1, ahead, if_true]

end Cell

namespace Controller

def ExtendedUntil (c : Controller) (id : IntersectionId) (u : Instant) : Prop :=
  ∀ cell, c.cell? id = some cell → cell.ExtendedUntil u

section

variable (id : IntersectionId) {now : Instant}

theorem visit_paced {v : IntersectionId × CellAct} (about : v.2.About v.1) (c : Controller) :
    Paced id c.policy.timings.extensionSeconds now (c.ExtendedUntil id) (c.visit now v).2
      ((c.visit now v).1.ExtendedUntil id) := by
  cases found : c.cell? v.1 with
  | none =>
    rw [visit_missing now found]
    exact .nothing fun _ _ kept => kept
  | some cell =>
    rw [visit_found now found]
    by_cases same : id = v.1
    · subst same
      apply (Cell.act_paced c.policy about cell).imp
      · exact fun u _ extended => extended cell found
      · intro u _ extended later held
        rw [cell?_setCell, if_pos rfl, found] at held
        cases held
        exact extended
    · have own := (@Cell.act_tells c.policy v.1 now v.2 about cell).own
      apply Paced.quiet
      · intro t member extension
        exact same (extension.1.symm.trans (Option.some.inj (own _ member)))
      · intro row member here
        exact absurd (here.symm.trans (Option.some.inj (own _ member))) same
      · intro u _ extended later held
        rw [cell?_setCell, if_neg same] at held
        exact extended later held

theorem goOver_paced {visits : List (IntersectionId × CellAct)} (about : ∀ v ∈ visits, v.2.About v.1)
    (c : Controller) :
    Paced id c.policy.timings.extensionSeconds now (c.ExtendedUntil id) (c.goOver now visits).2
      ((c.goOver now visits).1.ExtendedUntil id) := by
  induction visits generalizing c with
  | nil => exact .nothing fun _ _ kept => kept
  | cons v rest ih =>
    obtain ⟨first, later⟩ := List.forall_mem_cons.mp about
    have rest := ih later (c.visit now v).1
    rw [(visit_paired now v).policy] at rest
    exact (visit_paced id first c).trans rest

theorem operate_paced (c : Controller) (op : Operation) :
    Paced id c.policy.timings.extensionSeconds now (c.ExtendedUntil id) (c.operate now op).2.records
      ((c.operate now op).1.ExtendedUntil id) := by
  have follows := c.operate_follows now op
  cases planned : c.plan now op with
  | none =>
    rw [planned] at follows
    rw [follows]
    exact .nothing fun _ _ kept => kept
  | some p =>
    rw [planned] at follows
    rw [follows.1, follows.2, Plan.written]
    have opening : Paced id c.policy.timings.extensionSeconds now (c.ExtendedUntil id)
        (p.opening.toList.map .event) (c.ExtendedUntil id) := .quiet (by simp) (by simp) fun _ _ kept => kept
    refine (opening.trans (goOver_paced id (plan_about planned) c)).trans
      (.quiet ?_ ?_ fun _ _ kept => kept)
    · intro t member
      split at member <;> simp at member
    · intro row member
      split at member <;> simp at member

end

end Controller

namespace ControlRoom

theorem left_paced (s : ControlRoom) (now : Instant) (op : Operation) (id : IntersectionId) :
    ∃ after : Instant → Prop,
      Paced id s.controller.policy.timings.extensionSeconds now (s.controller.ExtendedUntil id)
        (s.left now op) after ∧
      (now.isFinalLeap = false → ∀ u, after u → (s.perform now op).controller.ExtendedUntil id u) := by
  cases attempted : s.attempt now op with
  | none =>
    rw [left, attempted]
    refine ⟨_, .nothing fun _ _ kept => kept, fun inside u kept => ?_⟩
    rw [s.perform_stopped_inside inside attempted]
    exact kept
  | some s' =>
    obtain ⟨f, rfl⟩ := attempt_takes attempted
    rw [perform_done attempted, left, attempted]
    exact ⟨_, s.controller.operate_paced id op, fun _ _ kept => kept⟩

def chronicle : ControlRoom → List (Instant × Operation) → List Record
  | _, [] => []
  | s, (now, op) :: rest => s.left now op ++ (s.perform now op).chronicle rest

section

variable {s : ControlRoom} {steps : List (Instant × Operation)} {id : IntersectionId}

theorem chronicle_dated {t : Transition} (told : .change t ∈ s.chronicle steps) (extension : t.Extends id) :
    t.moment ∈ steps.map Prod.fst ∧
      t.timer = some (t.moment.after s.controller.policy.timings.extensionSeconds) := by
  induction steps generalizing s with
  | nil => simp [chronicle] at told
  | cons step rest ih =>
    obtain ⟨now, op⟩ := step
    rcases List.mem_append.mp told with first | later
    · obtain ⟨_, paced, _⟩ := s.left_paced now op id
      obtain ⟨moment, timer⟩ := paced.dated t first extension
      rw [moment]
      exact ⟨by simp, timer⟩
    · obtain ⟨moment, timer⟩ := ih later
      rw [(s.perform_paired now op).policy] at timer
      exact ⟨List.mem_cons_of_mem _ moment, timer⟩

theorem chronicle_told {row : DecisionRow} (decided : .decision row ∈ s.chronicle steps)
    (own : row.intersection = id) (lengthens : row.action = .extendGreen) :
    ∃ t, .change t ∈ s.chronicle steps ∧ t.Extends id ∧ t.moment = row.recordedAt := by
  induction steps generalizing s with
  | nil => simp [chronicle] at decided
  | cons step rest ih =>
    obtain ⟨now, op⟩ := step
    rcases List.mem_append.mp decided with first | later
    · obtain ⟨_, paced, _⟩ := s.left_paced now op id
      obtain ⟨t, told, same⟩ := paced.told row first own lengthens
      exact ⟨t, List.mem_append_left _ told, same⟩
    · obtain ⟨t, told, same⟩ := ih later
      exact ⟨t, List.mem_append_right _ told, same⟩

theorem chronicle_spaced (forward : (steps.map Prod.fst).Pairwise (· ≤ ·)) {ends : List Instant}
    (stands : ∀ u ∈ ends, ∀ step ∈ steps, step.1 < u →
      step.1.isFinalLeap = false ∧ s.controller.ExtendedUntil id u) :
    Spaced id s.controller.policy.timings.extensionSeconds ends (s.chronicle steps) := by
  induction steps generalizing s ends with
  | nil => trivial
  | cons step rest ih =>
    obtain ⟨now, op⟩ := step
    obtain ⟨ahead, forward⟩ := List.pairwise_cons.mp forward
    obtain ⟨after, paced, kept⟩ := s.left_paced now op id
    obtain ⟨spaced, left⟩ := paced.spaced ends fun u member early =>
      (stands u member (now, op) (by simp) early).2
    rw [chronicle, spaced_append]
    refine ⟨spaced, ?_⟩
    rw [← (s.perform_paired now op).policy]
    apply ih forward
    -- An end that is pending either stood before or was set by this operation.
    intro u member later among early
    rw [(s.perform_paired now op).policy] at member
    have reached : now ≤ later.1 := ahead _ (List.mem_map_of_mem among)
    have inside : later.1.isFinalLeap = false := by
      rcases mem_pending member with old | ⟨t, told, extension, rfl⟩
      · exact (stands u old later (List.mem_cons_of_mem _ among) early).1
      · rw [(paced.dated t told extension).1] at early
        exact Instant.isFinalLeap_of_lt_after reached early
    exact ⟨inside, kept (Instant.isFinalLeap_of_le reached inside) u
      (left u member (lt_of_le_of_lt reached early))⟩

theorem extensions_apart (s : ControlRoom) {steps : List (Instant × Operation)}
    (forward : (steps.map Prod.fst).Pairwise (· ≤ ·)) (id : IntersectionId) :
    let seconds := s.controller.policy.timings.extensionSeconds
    (∀ row, .decision row ∈ s.chronicle steps → row.intersection = id → row.action = .extendGreen →
      ∃ t, .change t ∈ s.chronicle steps ∧ t.Extends id ∧ t.moment = row.recordedAt) ∧
    (∀ t, .change t ∈ s.chronicle steps → t.Extends id →
      t.moment ∈ steps.map Prod.fst ∧ t.timer = some (t.moment.after seconds)) ∧
      ∀ before first between second after,
        s.chronicle steps = before ++ .change first :: (between ++ .change second :: after) →
        first.Extends id → second.Extends id → second.moment < first.moment.after seconds →
        ∃ row ∈ decisionsOf id between, row.Interrupts := by
  intro seconds
  refine ⟨fun row decided own lengthens => chronicle_told decided own lengthens,
    fun t told extension => chronicle_dated told extension, ?_⟩
  intro before first between second after told extension again early
  have spaced : Spaced id seconds [] (s.chronicle steps) := chronicle_spaced forward (by simp)
  rw [told] at spaced
  exact spaced.between extension again early

end

theorem extensions_apart_after_hold :
    let settings : Settings := { rows := ["A"], columns := [1] }
    let queue (n : Nat) : Operation :=
      .reading ⟨"INT-A1", "CAM-A1", Instant.epoch.after n, .queue 12 60.0⟩
    let steps : List (Instant × Operation) :=
      [(Instant.epoch.after 1, queue 1), (Instant.epoch.after 3, .hold "INT-A1" .red "operator"),
        (Instant.epoch.after 5, queue 5)]
    ∃ room before first between second after,
      start? settings (.log { name := "replica" }) (.log { name := "primary" }) .epoch = some room ∧
        room.chronicle steps = before ++ .change first :: (between ++ .change second :: after) ∧
        first.moment = Instant.epoch.after 1 ∧ first.timer = some (Instant.epoch.after 11) ∧
        second.moment = Instant.epoch.after 5 ∧ ∃ row ∈ decisionsOf "INT-A1" between, row.Interrupts := by
  intro settings queue steps
  let green (n : Nat) : Transition :=
    ⟨"INT-A1", .red, .green, Cause.congestion.label, some (Instant.epoch.after (n + 10)),
      Instant.epoch.after n⟩
  have changes : ((onLogs settings .epoch).chronicle steps).map change? =
      [none] ++ some (green 1) ::
        ([none, some ⟨"INT-A1", .green, .red, "manual", none, Instant.epoch.after 3⟩, none, none, none] ++
          some (green 5) :: [none]) := by decide +kernel
  obtain ⟨before, rest, told, _, shown⟩ := List.map_eq_append_iff.mp changes
  obtain ⟨_, rest, rfl, first, shown⟩ := List.map_eq_cons_iff.mp shown
  obtain ⟨between, rest, rfl, _, shown⟩ := List.map_eq_append_iff.mp shown
  obtain ⟨_, after, rfl, second, _⟩ := List.map_eq_cons_iff.mp shown
  rw [change?_eq_some first, change?_eq_some second] at told
  refine ⟨_, before, green 1, between, green 5, after, start?_onLogs (by decide) _, told, rfl, rfl, rfl, ?_⟩
  exact ((onLogs settings .epoch).extensions_apart (by decide) "INT-A1").2.2 before (green 1) between
    (green 5) after told ⟨rfl, rfl⟩ ⟨rfl, rfl⟩ (by decide)

end ControlRoom

end Signalgrid
