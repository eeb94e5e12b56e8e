import Signalgrid.Proofs.Control.Operations
import Signalgrid.Proofs.Control.Replay

set_option autoImplicit false

namespace Signalgrid

open Record

def CellAct.About (id : IntersectionId) : CellAct → Prop
  | .ingest r => r.intersection = id
  | _ => True

theorem CellAct.About.stalled {id : IntersectionId} {a : CellAct} : a.stalled.About id := by
  cases a <;> trivial

theorem Operation.Brings.about {g : Grid} {op : Operation} {v : IntersectionId × CellAct}
    (brought : op.Brings g v) : v.2.About v.1 := by
  cases brought <;> simp [CellAct.About]

theorem Cell.act_tells {policy : Policy} {id : IntersectionId} {now : Instant} {a : CellAct}
    (about : a.About id) (c : Cell) :
    c.Tells id now (c.act policy id now a).cell (c.act policy id now a).records := by
  cases a with
  | ingest r =>
    obtain rfl := about
    exact c.ingest_tells r
  | sweep => exact c.sweep_tells
  | wave reason => exact c.wave_tells reason
  | hold color => exact c.hold_tells color
  | stall seen => exact c.stall_tells seen

namespace Plan

variable (p : Plan) (id : IntersectionId) (rs : List Record)

theorem filterMap_written {α : Type} {f : Record → Option α} (unopened : ∀ r, f (.event r) = none)
    (unclosed : ∀ a, f (.action a) = none) : (p.written rs).filterMap f = rs.filterMap f := by
  have opening : (p.opening.toList.map Record.event).filterMap f = [] := by
    cases p.opening <;> simp [unopened]
  have closing : (p.closing.toList.map Record.action).filterMap f = [] := by
    cases p.closing <;> simp [unclosed]
  rw [written, List.filterMap_append, List.filterMap_append, opening, List.nil_append]
  split
  · exact List.append_nil _
  · rw [closing, List.append_nil]

@[simp] theorem changesOf_written : changesOf id (p.written rs) = changesOf id rs :=
  p.filterMap_written rs (fun _ => rfl) fun _ => rfl

@[simp] theorem decisionsOf_written : decisionsOf id (p.written rs) = decisionsOf id rs :=
  p.filterMap_written rs (fun _ => rfl) fun _ => rfl

end Plan

namespace Controller

def Tells (now : Instant) (c d : Controller) (rs : List Record) : Prop :=
  ∀ id after, d.cell? id = some after →
    ∃ before, c.cell? id = some before ∧ before.Tells id now after (of id rs)

section

variable {now : Instant} {b c d : Controller} {rs more : List Record}

theorem Tells.refl (c : Controller) : c.Tells now c [] :=
  fun _ cell found => ⟨cell, found, .nothing rfl rfl⟩

theorem Tells.trans (first : b.Tells now c rs) (second : c.Tells now d more) :
    b.Tells now d (rs ++ more) := by
  intro id last found
  obtain ⟨middle, found, back⟩ := second id last found
  obtain ⟨start, found, front⟩ := first id middle found
  rw [of_append]
  exact ⟨start, found, front.trans back⟩

theorem visit_tells {v : IntersectionId × CellAct} (about : v.2.About v.1) (c : Controller) :
    c.Tells now (c.visit now v).1 (c.visit now v).2 := by
  cases found : c.cell? v.1 with
  | none =>
    rw [visit_missing now found]
    exact .refl c
  | some cell =>
    rw [visit_found now found]
    have told := @Cell.act_tells c.policy v.1 now v.2 about cell
    intro id after held
    rw [cell?_setCell] at held
    rw [of_own told.own]
    split at held
    next same =>
      subst same
      rw [found] at held
      cases held
      exact ⟨cell, found, by simpa using told⟩
    next apart =>
      rw [if_neg apart]
      exact ⟨after, held, .nothing rfl rfl⟩

theorem goOver_tells {visits : List (IntersectionId × CellAct)} (about : ∀ v ∈ visits, v.2.About v.1)
    (c : Controller) : c.Tells now (c.goOver now visits).1 (c.goOver now visits).2 := by
  induction visits generalizing c with
  | nil => exact .refl c
  | cons v rest ih =>
    obtain ⟨first, later⟩ := List.forall_mem_cons.mp about
    exact (visit_tells first c).trans (ih later _)

theorem plan_about {c : Controller} {now : Instant} {op : Operation} {p : Plan}
    (planned : c.plan now op = some p) : ∀ v ∈ p.visits, v.2.About v.1 := by
  have same : c.visits now op = p.visits := by simp [visits, planned]
  exact fun v member => (visits_brought (same ▸ member)).about

theorem operate_tells (c : Controller) (now : Instant) (op : Operation) :
    c.Tells now (c.operate now op).1 (c.operate now op).2.records := by
  have follows := c.operate_follows now op
  cases planned : c.plan now op with
  | none =>
    rw [planned] at follows
    rw [follows]
    exact .refl c
  | some p =>
    rw [planned] at follows
    obtain ⟨same, records⟩ := follows
    rw [same, records]
    intro id after found
    obtain ⟨before, found, told⟩ := goOver_tells (plan_about planned) c id after found
    refine ⟨before, found, told.congr ?_ ?_ (own_of id _)⟩
    · rw [changesOf_of, changesOf_of, Plan.changesOf_written]
    · rw [decisionsOf_of, decisionsOf_of, Plan.decisionsOf_written]

end

end Controller

theorem ControlRoom.acts_about {s : ControlRoom} {now : Instant} {id : IntersectionId} {op : Operation}
    {a : CellAct} (falls : a ∈ s.acts now id op) : a.About id := by
  obtain ⟨b, brought, rfl | rfl⟩ := visits_brought (mem_actsOn.mp falls)
  · exact brought.about
  · exact .stalled

end Signalgrid
