import Signalgrid.Record.Basic

set_option autoImplicit false

namespace Signalgrid

def Linked {α κ : Type} (enter leave : α → κ) : κ → List α → κ → Prop
  | first, [], last => first = last
  | first, x :: rest, last => enter x = first ∧ Linked enter leave (leave x) rest last

theorem Linked.append {α κ : Type} {enter leave : α → κ} {first middle last : κ} {xs ys : List α}
    (front : Linked enter leave first xs middle) (back : Linked enter leave middle ys last) :
    Linked enter leave first (xs ++ ys) last := by
  induction xs generalizing first with
  | nil =>
    cases front
    exact back
  | cons x rest ih => exact ⟨front.1, ih front.2⟩

theorem Linked.getLast? {α κ : Type} {enter leave : α → κ} {first last : κ} {xs : List α}
    (linked : Linked enter leave first xs last) : last = (xs.getLast?.map leave).getD first := by
  induction xs generalizing first with
  | nil => exact linked.symm
  | cons x rest ih =>
    rw [ih linked.2, List.getLast?_cons]
    cases rest.getLast? <;> rfl

namespace Record

def changeOf? (id : IntersectionId) : Record → Option Transition
  | .change t => if t.intersection = id then some t else none
  | _ => none

def decisionOf? (id : IntersectionId) : Record → Option DecisionRow
  | .decision d => if d.intersection = id then some d else none
  | _ => none

def changesOf (id : IntersectionId) (rs : List Record) : List Transition := rs.filterMap (changeOf? id)

def decisionsOf (id : IntersectionId) (rs : List Record) : List DecisionRow :=
  rs.filterMap (decisionOf? id)

section

variable (id : IntersectionId) (rs more : List Record)

@[simp] theorem changesOf_nil : changesOf id [] = [] := rfl

@[simp] theorem decisionsOf_nil : decisionsOf id [] = [] := rfl

@[simp] theorem changesOf_append : changesOf id (rs ++ more) = changesOf id rs ++ changesOf id more :=
  List.filterMap_append

@[simp] theorem decisionsOf_append :
    decisionsOf id (rs ++ more) = decisionsOf id rs ++ decisionsOf id more := List.filterMap_append

variable {id}

theorem changesOf_change {change : Option Transition} (own : ∀ t ∈ change, t.intersection = id) :
    changesOf id (change.toList.map Record.change) = change.toList := by
  cases change with
  | none => rfl
  | some t => simp [changesOf, changeOf?, own t rfl]

theorem decisionsOf_change (change : Option Transition) :
    decisionsOf id (change.toList.map Record.change) = [] := by
  cases change <;> rfl

end

def of (id : IntersectionId) (rs : List Record) : List Record := rs.filter (·.intersection? = some id)

theorem of_append (id : IntersectionId) (rs more : List Record) :
    of id (rs ++ more) = of id rs ++ of id more := List.filter_append ..

theorem own_of (id : IntersectionId) (rs : List Record) : ∀ r ∈ of id rs, r.intersection? = some id := by
  simp [of]

theorem of_own {id : IntersectionId} {rs : List Record} (own : ∀ r ∈ rs, r.intersection? = some id)
    (other : IntersectionId) : of other rs = if other = id then rs else [] := by
  split
  next same =>
    subst same
    simpa [of, List.filter_eq_self] using own
  next apart =>
    rw [of, List.filter_eq_nil_iff]
    intro r member
    have apart' : ¬ id = other := fun same => apart same.symm
    simp [own r member, apart']

theorem filterMap_of {α : Type} {id : IntersectionId} {f : Record → Option α}
    (own : ∀ r, (f r).isSome → r.intersection? = some id) (rs : List Record) :
    (of id rs).filterMap f = rs.filterMap f := by
  rw [of, List.filterMap_filter]
  refine congrArg (List.filterMap · rs) (funext fun r => ?_)
  cases found : f r with
  | none => simp
  | some x => simp [own r (by simp [found])]

theorem changesOf_of (id : IntersectionId) (rs : List Record) :
    changesOf id (of id rs) = changesOf id rs := by
  refine filterMap_of (fun r told => ?_) rs
  cases r <;> simp_all [changeOf?, intersection?]

theorem decisionsOf_of (id : IntersectionId) (rs : List Record) :
    decisionsOf id (of id rs) = decisionsOf id rs := by
  refine filterMap_of (fun r told => ?_) rs
  cases r <;> simp_all [decisionOf?, intersection?]

end Record

end Signalgrid
