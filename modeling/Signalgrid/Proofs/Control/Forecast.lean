import Signalgrid.Proofs.Control.Ticks
import Mathlib.Tactic.Ring

set_option autoImplicit false

namespace Signalgrid

namespace Signal

inductive Step where
  | apply (c : Command)
  | tick (now : Instant)

namespace Step

def moment : Step → Instant
  | .apply c => c.issuedAt
  | .tick now => now

def command? : Step → Option Command
  | .apply c => some c
  | .tick _ => none

end Step

def step? (cycle : Span) (id : IntersectionId) (s : Signal) : Step → Option Signal
  | .apply c => some (s.apply c).1
  | .tick now => if s.canTick cycle now then some (s.tick cycle id now).1 else none

def run? (cycle : Span) (id : IntersectionId) (s : Signal) (steps : List Step) : Option Signal :=
  steps.foldlM (step? cycle id) s

def lastCommand (steps : List Step) : Option Command := (steps.filterMap Step.command?).getLast?

structure Face where
  color : Color
  mode : Mode
  anchor : Option Instant
deriving DecidableEq

def face (s : Signal) : Face :=
  ⟨s.color, s.mode, if s.mode = .cycling then some s.phaseStart else none⟩

def cyclingFrom (cycleSeconds : Nat) (anchor : Instant) (color : Color) (now : Instant) : Face :=
  let phases := cyclesBetween cycleSeconds anchor now
  ⟨color.turned phases, .cycling, anchor.add? ⟨cycleNanos cycleSeconds * phases⟩⟩

def anchorAfter (start : Instant) : Option Command → Option Instant
  | none => some start
  | some c => c.seconds.map c.issuedAt.after

def forecast (cycleSeconds : Nat) (start : Instant) (last : Option Command) (now : Instant) : Face :=
  match last with
  | none => cyclingFrom cycleSeconds start .red now
  | some c =>
    match c.seconds with
    | none => ⟨c.target, .held, none⟩
    | some n =>
      let deadline := c.issuedAt.after n
      if now < deadline then ⟨c.target, .timed deadline c.cause, none⟩
      else cyclingFrom cycleSeconds deadline c.target now

def outlook (cycleSeconds : Nat) (s : Signal) (now : Instant) : Face :=
  match s.mode with
  | .cycling => cyclingFrom cycleSeconds s.phaseStart s.color now
  | .timed deadline cause =>
      if now < deadline then ⟨s.color, .timed deadline cause, none⟩
      else cyclingFrom cycleSeconds deadline s.color now
  | .held => ⟨s.color, .held, none⟩

def anchor? (s : Signal) : Option Instant :=
  match s.mode with
  | .cycling => some s.phaseStart
  | .timed deadline _ => some deadline
  | .held => none

/-- The anchor is no leap second, and not too many cycles back at the moment looked at. -/
def Ready (cycleSeconds : Nat) (s : Signal) (now : Instant) : Prop :=
  ∀ anchor ∈ s.anchor?, anchor.isLeap = false ∧ cyclesBetween cycleSeconds anchor now ≤ maxPhases

def AnchoredBy (s : Signal) (moment : Instant) : Prop := s.mode = .cycling → s.phaseStart ≤ moment

theorem anchor_advance (n : Nat) {anchor next now : Instant} {phases : Int}
    (plainAnchor : anchor.isLeap = false) (plainNow : now.isLeap = false)
    (moved : anchor.add? ⟨cycleNanos n * phases⟩ = some next) :
    next.isLeap = false ∧ cyclesBetween n anchor now = phases + cyclesBetween n next now := by
  rw [Instant.add?_plain plainAnchor] at moved
  obtain ⟨stamp, plainNext⟩ := Instant.ofNanos?_eq_some moved
  have positive := cycleNanos_pos n
  refine ⟨plainNext, ?_⟩
  rw [cyclesBetween_plain n plainAnchor plainNow, cyclesBetween_plain n plainNext plainNow, stamp]
  rw [add_comm, ← Int.add_mul_ediv_left _ _ (by omega : cycleNanos n ≠ 0)]
  congr 1
  ring

theorem anchor_behind (n : Nat) {anchor next now : Instant} {phases : Int}
    (plainAnchor : anchor.isLeap = false) (plainNow : now.isLeap = false)
    (moved : anchor.add? ⟨cycleNanos n * phases⟩ = some next)
    (whole : phases ≤ cyclesBetween n anchor now) : next ≤ now := by
  have positive := cycleNanos_pos n
  rw [Instant.add?_plain plainAnchor] at moved
  obtain ⟨stamp, plainNext⟩ := Instant.ofNanos?_eq_some moved
  rw [cyclesBetween_plain n plainAnchor plainNow, Int.le_ediv_iff_mul_le (by omega), mul_comm] at whole
  rw [Instant.le_iff_stamp plainNext plainNow, stamp]
  dsimp only
  omega

theorem cyclingFrom_advance (n : Nat) {anchor next now : Instant} {phases : Int} (color : Color)
    (plainAnchor : anchor.isLeap = false) (plainNow : now.isLeap = false)
    (moved : anchor.add? ⟨cycleNanos n * phases⟩ = some next) :
    cyclingFrom n next (color.turned phases) now = cyclingFrom n anchor color now := by
  obtain ⟨plainNext, count⟩ := anchor_advance n plainAnchor plainNow moved
  rw [Instant.add?_plain plainAnchor] at moved
  obtain ⟨stamp, _⟩ := Instant.ofNanos?_eq_some moved
  simp only [cyclingFrom, count, Color.turned_add, Instant.add?_plain plainAnchor,
    Instant.add?_plain plainNext, stamp]
  congr 2
  ring

theorem cyclesBetween_mono (n : Nat) {anchor first second : Instant} (plainAnchor : anchor.isLeap = false)
    (plainFirst : first.isLeap = false) (plainSecond : second.isLeap = false) (order : first ≤ second) :
    cyclesBetween n anchor first ≤ cyclesBetween n anchor second := by
  have positive := cycleNanos_pos n
  rw [Instant.le_iff_stamp plainFirst plainSecond] at order
  rw [cyclesBetween_plain n plainAnchor plainFirst, cyclesBetween_plain n plainAnchor plainSecond]
  exact Int.ediv_le_ediv (by omega) (by omega)

section

variable {n : Nat} (id : IntersectionId) {s : Signal} {t now : Instant}

theorem outlook_cycling (mode : s.mode = .cycling) :
    s.outlook n now = cyclingFrom n s.phaseStart s.color now := by
  simp [outlook, mode]

theorem anchor?_cycling (mode : s.mode = .cycling) : s.anchor? = some s.phaseStart := by
  simp [anchor?, mode]

theorem turn_outlook (cycling : s.mode = .cycling) (ready : s.Ready n now)
    (plainT : t.isLeap = false) (plainNow : now.isLeap = false)
    (forward : s.phaseStart ≤ t) (upTo : t ≤ now) :
    (s.turn (cycleSpan n) id t).1.outlook n now = s.outlook n now ∧
      (s.turn (cycleSpan n) id t).1.Ready n now ∧
      (s.turn (cycleSpan n) id t).1.phaseStart ≤ t := by
  obtain ⟨plainStart, few⟩ := ready s.phaseStart (anchor?_cycling cycling)
  have fewer := le_trans (cyclesBetween_mono n plainStart plainT plainNow upTo) few
  obtain ⟨color, moved⟩ := turn_plain n id plainStart plainT forward fewer
  have mode : (s.turn (cycleSpan n) id t).1.mode = .cycling := (turn_mode _ _ s).trans cycling
  obtain ⟨plainNext, count⟩ := anchor_advance n plainStart plainNow moved
  have passed := cyclesBetween_nonneg n plainStart plainT forward
  refine ⟨?_, ?_, ?_⟩
  · rw [outlook_cycling mode, outlook_cycling cycling, color]
    exact cyclingFrom_advance n s.color plainStart plainNow moved
  · intro anchor member
    rw [anchor?_cycling mode, Option.mem_def, Option.some.injEq] at member
    subst member
    exact ⟨plainNext, by omega⟩
  · exact anchor_behind n plainStart plainT moved le_rfl

theorem lapsed_outlook {deadline : Instant} {cause : Cause} (mode : s.mode = .timed deadline cause)
    (late : ¬ now < deadline) : (s.lapsed deadline).outlook n now = s.outlook n now := by
  simp [outlook, lapsed, mode, late]

theorem lapsed_ready {deadline : Instant} {cause : Cause} (mode : s.mode = .timed deadline cause)
    (ready : s.Ready n now) : (s.lapsed deadline).Ready n now := by
  intro anchor member
  exact ready anchor (by simpa [anchor?, lapsed, mode] using member)

theorem tick_outlook (ready : s.Ready n now) (plainT : t.isLeap = false) (plainNow : now.isLeap = false)
    (anchored : s.AnchoredBy t) (upTo : t ≤ now) :
    (s.tick (cycleSpan n) id t).1.outlook n now = s.outlook n now ∧
      (s.tick (cycleSpan n) id t).1.Ready n now ∧
      (s.tick (cycleSpan n) id t).1.AnchoredBy t := by
  cases mode : s.mode with
  | cycling =>
      rw [tick_cycling _ _ mode]
      obtain ⟨same, ready', anchored'⟩ := turn_outlook id mode ready plainT plainNow (anchored mode) upTo
      exact ⟨same, ready', fun _ => anchored'⟩
  | timed deadline cause =>
      by_cases early : t < deadline
      · rw [tick_early _ _ mode early]
        exact ⟨rfl, ready, fun cycling => by simp [mode] at cycling⟩
      · have late : ¬ now < deadline := fun early' => by
          rw [not_lt] at early
          exact not_lt.mpr (le_trans early upTo) early'
        rw [tick_late _ _ mode early, ← lapsed_outlook mode late]
        obtain ⟨same, ready', anchored'⟩ := turn_outlook id (s := s.lapsed deadline) rfl
          (lapsed_ready mode ready) plainT plainNow (not_lt.mp early) upTo
        exact ⟨same, ready', fun _ => anchored'⟩
  | held =>
      rw [tick_held _ _ mode]
      exact ⟨rfl, ready, anchored⟩

theorem turn_face (cycling : s.mode = .cycling) (ready : s.Ready n now) (plainNow : now.isLeap = false)
    (forward : s.phaseStart ≤ now) :
    (s.turn (cycleSpan n) id now).1.face = cyclingFrom n s.phaseStart s.color now := by
  obtain ⟨plainStart, few⟩ := ready s.phaseStart (anchor?_cycling cycling)
  obtain ⟨color, moved⟩ := turn_plain n id plainStart plainNow forward few
  have mode : (s.turn (cycleSpan n) id now).1.mode = .cycling := (turn_mode _ _ s).trans cycling
  simp only [face, mode, color, if_true, cyclingFrom, moved]

theorem tick_face (ready : s.Ready n now) (plainNow : now.isLeap = false) (anchored : s.AnchoredBy now) :
    (s.tick (cycleSpan n) id now).1.face = s.outlook n now := by
  cases mode : s.mode with
  | cycling =>
      simp only [tick_cycling _ _ mode, outlook, mode,
        turn_face id mode ready plainNow (anchored mode)]
  | timed deadline cause =>
      by_cases early : now < deadline
      · simp [tick_early _ _ mode early, outlook, mode, early, face]
      · rw [tick_late _ _ mode early, turn_face id rfl (lapsed_ready mode ready) plainNow
          (not_lt.mp early)]
        simp [outlook, mode, early, lapsed]
  | held => simp [tick_held _ _ mode, outlook, mode, face]

end

theorem apply_outlook (n : Nat) (s : Signal) (c : Command) (start now : Instant) :
    (s.apply c).1.outlook n now = forecast n start (some c) now := by
  cases seconds : c.seconds <;> simp [outlook, forecast, Command.mode, seconds]

theorem apply_anchor? (s : Signal) (c : Command) (start : Instant) :
    (s.apply c).1.anchor? = anchorAfter start (some c) := by
  cases seconds : c.seconds <;> simp [anchor?, anchorAfter, Command.mode, seconds]

theorem apply_anchoredBy (s : Signal) (c : Command) (moment : Instant) : (s.apply c).1.AnchoredBy moment := by
  intro cycling
  cases seconds : c.seconds <;> simp [Command.mode, seconds] at cycling

theorem anchorAfter_plain {start : Instant} {last : Option Command} {anchor : Instant}
    (plainStart : start.isLeap = false) (plainLast : ∀ c ∈ last, c.issuedAt.isLeap = false)
    (member : anchor ∈ anchorAfter start last) : anchor.isLeap = false := by
  cases last with
  | none =>
      obtain rfl := Option.some.inj member
      exact plainStart
  | some c =>
      obtain ⟨n, _, rfl⟩ := Option.map_eq_some_iff.mp member
      exact (Instant.after_plain (plainLast c rfl) n).1

theorem lastCommand_cons (step : Step) (rest : List Step) :
    lastCommand (step :: rest) = (lastCommand rest).or step.command? := by
  cases step with
  | tick now => simp [lastCommand, Step.command?]
  | apply c =>
      simp only [lastCommand, Step.command?, List.filterMap_cons, List.getLast?_cons]
      cases (rest.filterMap Step.command?).getLast? <;> rfl

theorem lastCommand_split {steps : List Step} {c : Command} (last : lastCommand steps = some c) :
    ∃ before after, steps = before ++ .apply c :: after ∧ lastCommand after = none := by
  induction steps with
  | nil => cases last
  | cons step rest ih =>
      rw [lastCommand_cons] at last
      cases later : lastCommand rest with
      | some c' =>
          rw [later] at last
          obtain ⟨before, after, rfl, quiet⟩ := ih (later.trans last)
          exact ⟨step :: before, after, rfl, quiet⟩
      | none =>
          rw [later] at last
          cases step with
          | apply first =>
              obtain rfl := Option.some.inj last
              exact ⟨[], rest, rfl, later⟩
          | tick now => cases last

def follow (cycle : Span) (id : IntersectionId) (s : Signal) : Step → Signal
  | .apply c => (s.apply c).1
  | .tick now => (s.tick cycle id now).1

theorem run?_inside (n : Nat) (id : IntersectionId) (s : Signal) (steps : List Step)
    (inside : ∀ step ∈ steps, step.moment.isFinalLeap = false) :
    run? (cycleSpan n) id s steps = some (steps.foldl (follow (cycleSpan n) id) s) := by
  induction steps generalizing s with
  | nil => rfl
  | cons step rest ih =>
      have first : step? (cycleSpan n) id s step = some (follow (cycleSpan n) id s step) := by
        cases step with
        | apply c => rfl
        | tick now =>
            have can := canTick_inside n s (inside (.tick now) List.mem_cons_self)
            simp [step?, follow, show s.canTick (cycleSpan n) now = true from can]
      rw [run?, List.foldlM_cons, first]
      exact ih _ fun step member => inside step (List.mem_cons_of_mem _ member)

theorem ticks_outlook (n : Nat) (id : IntersectionId) (s : Signal) (steps : List Step) (now : Instant)
    (quiet : lastCommand steps = none) (ready : s.Ready n now)
    (plain : ∀ t ∈ steps.map Step.moment ++ [now], t.isLeap = false)
    (ordered : (steps.map Step.moment ++ [now]).Pairwise (· ≤ ·))
    (anchored : ∀ t ∈ steps.map Step.moment ++ [now], s.AnchoredBy t) :
    ((steps ++ [Step.tick now]).foldl (follow (cycleSpan n) id) s).face = s.outlook n now := by
  induction steps generalizing s with
  | nil =>
      exact tick_face id ready (plain now (by simp)) (anchored now (by simp))
  | cons step rest ih =>
      cases step with
      | apply c => simp [lastCommand_cons, Step.command?] at quiet
      | tick t =>
          simp only [lastCommand_cons, Step.command?, Option.or_none] at quiet
          simp only [List.map_cons, Step.moment, List.cons_append, List.pairwise_cons,
            List.forall_mem_cons] at ordered plain anchored
          obtain ⟨same, ready', anchored'⟩ := tick_outlook id ready plain.1
            (plain.2 now (by simp)) anchored.1 (ordered.1 now (by simp))
          -- The tick has not changed the outlook, so the later ones forecast what it did.
          rw [← same]
          exact ih _ quiet ready' plain.2 ordered.2 fun later member cycling =>
            le_trans (anchored' cycling) (ordered.1 later member)

theorem start_ready {n : Nat} {start now : Instant} (plain : start.isLeap = false)
    (few : cyclesBetween n start now ≤ maxPhases) : (Signal.start start).Ready n now := by
  intro anchor member
  obtain rfl := Option.some.inj member
  exact ⟨plain, few⟩

theorem forecast_exact (cycleSeconds : Nat) (id : IntersectionId) (start now : Instant) (steps : List Step)
    (ordered : (start :: (steps.map Step.moment ++ [now])).Pairwise (· ≤ ·))
    (plain : ∀ t ∈ start :: (steps.map Step.moment ++ [now]), t.isLeap = false)
    (few : ∀ anchor ∈ anchorAfter start (lastCommand steps),
      cyclesBetween cycleSeconds anchor now < 2 ^ 31) :
    (run? (cycleSpan cycleSeconds) id (Signal.start start) (steps ++ [.tick now])).map face =
      some (forecast cycleSeconds start (lastCommand steps) now) := by
  have fewer : ∀ anchor ∈ anchorAfter start (lastCommand steps),
      cyclesBetween cycleSeconds anchor now ≤ maxPhases := by
    intro anchor member
    have := few anchor member
    simp only [maxPhases]
    omega
  rw [run?_inside, Option.map_some, Option.some.injEq]
  · simp only [List.pairwise_cons, List.forall_mem_cons] at ordered plain
    cases last : lastCommand steps with
    | none =>
        rw [last] at fewer
        exact ticks_outlook cycleSeconds id _ steps now last (start_ready plain.1 (fewer start rfl))
          plain.2 ordered.2 fun t member _ => ordered.1 t member
    | some c =>
        rw [last] at fewer
        obtain ⟨before, after, rfl, quiet⟩ := lastCommand_split last
        have moments : (before ++ .apply c :: after).map Step.moment ++ [now] =
            (before.map Step.moment ++ [c.issuedAt]) ++ (after.map Step.moment ++ [now]) := by
          simp [Step.moment]
        rw [moments] at ordered plain
        rw [List.append_assoc, List.foldl_append]
        generalize before.foldl (follow (cycleSpan cycleSeconds) id) (.start start) = s
        change ((after ++ [Step.tick now]).foldl _ (s.apply c).1).face = _
        rw [← apply_outlook cycleSeconds s]
        apply ticks_outlook cycleSeconds id _ after now quiet
        · intro anchor member
          rw [apply_anchor? s c start] at member
          refine ⟨anchorAfter_plain plain.1 ?_ member, fewer anchor member⟩
          intro c' same
          obtain rfl := Option.some.inj same
          exact plain.2 _ (by simp)
        · exact fun t member => plain.2 t (List.mem_append_right _ member)
        · exact (List.pairwise_append.mp ordered.2).2.1
        · exact fun t _ => apply_anchoredBy s c t
  · intro step member
    have : step.moment.isLeap = false := by
      apply plain
      rcases List.mem_append.mp member with inside | last
      · exact List.mem_cons_of_mem _ (List.mem_append_left _ (List.mem_map_of_mem inside))
      · obtain rfl := List.mem_singleton.mp last
        simp [Step.moment]
    simp [Instant.isFinalLeap, this]

theorem forecast_exact_after_timer :
    (run? (cycleSpan 15) "INT-B3" (.start .epoch)
      ([.tick (Instant.epoch.after 16),
        .apply ⟨"INT-B3", .green, .congestion, some 10, Instant.epoch.after 20⟩,
        .tick (Instant.epoch.after 31)] ++ [.tick (Instant.epoch.after 76)])).map face =
      some ⟨.red, .cycling, some (Instant.epoch.after 75)⟩ :=
  (forecast_exact 15 "INT-B3" .epoch (Instant.epoch.after 76)
    [.tick (Instant.epoch.after 16),
      .apply ⟨"INT-B3", .green, .congestion, some 10, Instant.epoch.after 20⟩,
      .tick (Instant.epoch.after 31)] (by decide) (by decide) (by decide)).trans (by decide)

end Signal

end Signalgrid
