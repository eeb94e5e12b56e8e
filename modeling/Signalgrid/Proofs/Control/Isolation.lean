import Signalgrid.Proofs.Control.Operations

set_option autoImplicit false

namespace Signalgrid

namespace Operation

def concerns (g : Grid) (id : IntersectionId) : Operation → Bool
  | .line text =>
      match SensorLine.parse g text with
      | .accepted r => r.intersection == id
      | _ => false
  | .reading r => r.intersection == id
  | .sweep => true
  | .wave route _ _ =>
      match g.expand route with
      | .ok ids => ids.contains id
      | .error _ => false
  | .hold name _ _ => name == id
  | .status _ => false

def joint : Operation → Bool
  | .sweep | .wave .. => true
  | _ => false

theorem concerns_alone {g : Grid} {id other : IntersectionId} {op : Operation} (alone : op.joint = false)
    (first : op.concerns g id = true) (second : op.concerns g other = true) : other = id := by
  cases op with
  | line text =>
    simp only [concerns] at first second
    split at first <;> simp_all
  | reading r => simp_all [concerns]
  | sweep => simp [joint] at alone
  | wave route reason requestedBy => simp [joint] at alone
  | hold name color requestedBy => simp_all [concerns]
  | status name => simp [concerns] at first

theorem Brings.concerns {g : Grid} {op : Operation} {v : IntersectionId × CellAct}
    (brought : op.Brings g v) : op.concerns g v.1 = true := by
  cases brought with
  | line parsed => simp [Operation.concerns, parsed]
  | reading r => simp [Operation.concerns]
  | sweep => rfl
  | wave expanded affected => simpa [Operation.concerns, expanded] using affected
  | hold => simp [Operation.concerns]

end Operation

namespace Controller

theorem Paired.visits {c d : Controller} (paired : c.Paired d) (now : Instant) (op : Operation) :
    c.visits now op = d.visits now op := by
  cases op <;> simp [Controller.visits, plan, planReading, paired.grid, paired.present]

end Controller

namespace ControlRoom

theorem perform_unconcerned (s : ControlRoom) (now : Instant) {op : Operation} {id : IntersectionId}
    (apart : op.concerns s.controller.grid id = false) :
    (s.perform now op).controller.cell? id = s.controller.cell? id := by
  have none : s.acts now id op = [] := by
    refine List.eq_nil_iff_forall_not_mem.mpr fun a member => ?_
    obtain ⟨_, brought, _⟩ := visits_brought (mem_actsOn.mp member)
    rw [brought.concerns] at apart
    cases apart
  simp [perform_cell?, none, Cell.undergo]

section

variable {s t : ControlRoom} (paired : s.controller.Paired t.controller) {now : Instant} {op : Operation}

include paired

theorem acts_agree (id : IntersectionId)
    (agree : ∀ other, op.concerns s.controller.grid other = true →
      s.controller.cell? other = t.controller.cell? other) :
    s.acts now id op = t.acts now id op := by
  unfold acts visits
  rw [← paired.visits now op]
  rw [paired.reached fun v member => agree v.1 (Controller.visits_brought member).concerns]

theorem perform_agree {id : IntersectionId}
    (same : s.controller.cell? id = t.controller.cell? id) (acts : s.acts now id op = t.acts now id op) :
    (s.perform now op).controller.cell? id = (t.perform now op).controller.cell? id := by
  rw [perform_cell?, perform_cell?, same, acts, paired.policy]

theorem perform_concerned {id : IntersectionId}
    (same : s.controller.cell? id = t.controller.cell? id)
    (concerned : op.concerns s.controller.grid id = true)
    (inside : op.joint = true → now.isFinalLeap = false) :
    (s.perform now op).controller.cell? id = (t.perform now op).controller.cell? id := by
  refine perform_agree paired same ?_
  cases wide : op.joint with
  | false =>
    refine acts_agree paired id fun other about => ?_
    rw [Operation.concerns_alone wide concerned about]
    exact same
  | true =>
    unfold acts
    rw [s.visits_inside (inside wide), t.visits_inside (inside wide), paired.visits now op]

theorem run_concerned {id : IntersectionId} (same : s.controller.cell? id = t.controller.cell? id)
    (steps : List (Instant × Operation))
    (inside : ∀ step ∈ steps, step.2.joint = true → step.2.concerns s.controller.grid id = true →
      step.1.isFinalLeap = false) :
    (s.run steps).controller.cell? id =
      (t.run (steps.filter fun step => step.2.concerns s.controller.grid id)).controller.cell? id := by
  induction steps generalizing s t with
  | nil => exact same
  | cons step rest ih =>
    obtain ⟨now, op⟩ := step
    rw [List.forall_mem_cons] at inside
    have ground := s.perform_paired now op
    have inside' := inside.2
    rw [← ground.grid] at inside'
    rw [run_cons, List.filter_cons]
    cases about : op.concerns s.controller.grid id with
    | false =>
      -- A step of other intersections only: the second run lacks it, and the first keeps its cell.
      have kept := (s.perform_unconcerned now about).trans same
      simpa only [ground.grid, Bool.false_eq_true, if_false] using
        ih (ground.trans paired) kept inside'
    | true =>
      have moved := perform_concerned paired same about fun wide => inside.1 wide about
      simpa only [ground.grid, if_true, run_cons] using
        ih ((ground.trans paired).trans (t.perform_paired now op).symm) moved inside'

end

theorem perform_after {s : ControlRoom} {first second : Instant × Operation}
    (apart : ∀ id, second.2.concerns s.controller.grid id = true →
      first.2.concerns s.controller.grid id = false) {id : IntersectionId}
    (about : second.2.concerns s.controller.grid id = true) :
    ((s.perform first.1 first.2).perform second.1 second.2).controller.cell? id =
      (s.perform second.1 second.2).controller.cell? id := by
  have paired := s.perform_paired first.1 first.2
  refine perform_agree paired (s.perform_unconcerned first.1 (apart id about)) ?_
  refine acts_agree paired id fun other concerned => ?_
  rw [paired.grid] at concerned
  exact s.perform_unconcerned first.1 (apart other concerned)

theorem perform_comm {s : ControlRoom} {first second : Instant × Operation}
    (disjoint : ∀ id, first.2.concerns s.controller.grid id = true →
      second.2.concerns s.controller.grid id = false) (id : IntersectionId) :
    ((s.perform first.1 first.2).perform second.1 second.2).controller.cell? id =
      ((s.perform second.1 second.2).perform first.1 first.2).controller.cell? id := by
  have disjoint' : ∀ other, second.2.concerns s.controller.grid other = true →
      first.2.concerns s.controller.grid other = false := by
    intro other about
    by_contra both
    simp [disjoint other (by simpa using both)] at about
  have kept (earlier later : Instant × Operation)
      (unmoved : later.2.concerns s.controller.grid id = false) :
      ((s.perform earlier.1 earlier.2).perform later.1 later.2).controller.cell? id =
        (s.perform earlier.1 earlier.2).controller.cell? id := by
    refine perform_unconcerned _ later.1 ?_
    rw [(s.perform_paired earlier.1 earlier.2).grid]
    exact unmoved
  cases about : first.2.concerns s.controller.grid id with
  | true => rw [kept first second (disjoint id about), perform_after disjoint about]
  | false =>
    rw [kept second first about]
    cases about' : second.2.concerns s.controller.grid id with
    | true => exact perform_after disjoint' about'
    | false =>
      rw [kept first second about', s.perform_unconcerned first.1 about,
        s.perform_unconcerned second.1 about']

/-- What a run leaves of a cell is what its part about that intersection leaves. -/
theorem cells_isolated (s : ControlRoom) :
    (∀ id (steps : List (Instant × Operation)),
      (∀ step ∈ steps, step.2.joint = true → step.2.concerns s.controller.grid id = true →
        step.1.isFinalLeap = false) →
      (s.run steps).controller.cell? id =
        (s.run (steps.filter fun step => step.2.concerns s.controller.grid id)).controller.cell? id) ∧
      ∀ first second : Instant × Operation,
        (∀ id, first.2.concerns s.controller.grid id = true →
          second.2.concerns s.controller.grid id = false) →
        ∀ id, (s.run [first, second]).controller.cell? id =
          (s.run [second, first]).controller.cell? id := by
  constructor
  · intro id steps inside
    exact run_concerned (Controller.Paired.refl s.controller) rfl steps inside
  · intro first second disjoint id
    exact perform_comm disjoint id

theorem cells_isolated_rows :
    ∃ s, start? { rows := ["A", "B"], columns := [1] } (.log { name := "replica" })
        (.log { name := "primary" }) .epoch = some s ∧
      (s.run [(Instant.epoch.after 5, .wave (.row "B") "ambulance" "operator"),
          (Instant.epoch.after 20, .sweep)]).controller.cell? "INT-A1" =
        (s.run [(Instant.epoch.after 20, .sweep)]).controller.cell? "INT-A1" ∧
      (s.run [(Instant.epoch.after 5, .wave (.row "B") "ambulance" "operator"),
          (Instant.epoch.after 3, .hold "INT-A1" .green "operator")]).controller.cell? "INT-B1" =
        (s.run [(Instant.epoch.after 3, .hold "INT-A1" .green "operator"),
          (Instant.epoch.after 5, .wave (.row "B") "ambulance" "operator")]).controller.cell? "INT-B1" := by
  refine ⟨_, rfl, ?_, ?_⟩
  · exact (@cells_isolated _).1 "INT-A1"
      [(Instant.epoch.after 5, .wave (.row "B") "ambulance" "operator"),
        (Instant.epoch.after 20, .sweep)] (by decide +kernel)
  · refine (@cells_isolated _).2 (Instant.epoch.after 5, .wave (.row "B") "ambulance" "operator")
      (Instant.epoch.after 3, .hold "INT-A1" .green "operator") ?_ "INT-B1"
    intro id about
    have row : (Controller.ofSettings { rows := ["A", "B"], columns := [1] } .epoch).grid.expand
        (.row "B") = .ok ["INT-B1"] := rfl
    have there : id = "INT-B1" := by simpa [Operation.concerns, row] using about
    simp [Operation.concerns, there]

theorem sweep_stopped_elsewhere :
    ∃ s steps, start? { rows := ["A"], columns := [1, 2] } (.log { name := "replica" })
        (.log { name := "primary" }) ⟨8210266876750, 0, by decide, by decide, by decide, by decide⟩ = some s ∧
      ((s.run steps).controller.cell? "INT-A2").map (fun cell => cell.signal.color) = some .red ∧
      ((s.run (steps.filter fun step =>
          step.2.concerns s.controller.grid "INT-A2")).controller.cell? "INT-A2").map
        (fun cell => cell.signal.color) = some .green := by
  let asked : Instant := ⟨8210266876755, 0, by decide, by decide, by decide, by decide⟩
  let final : Instant := ⟨8210266876799, 1000000000, by decide, by decide, by decide, by decide⟩
  refine ⟨_, [(asked, .wave (.intersections ["INT-A1"]) "ambulance" "operator"), (final, .sweep)],
    rfl, ?_, ?_⟩
  · decide +kernel
  · decide +kernel

end ControlRoom

end Signalgrid
