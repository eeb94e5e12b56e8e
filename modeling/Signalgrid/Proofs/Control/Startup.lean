import Signalgrid.Service
import Signalgrid.Proofs.Control.Counts
import Signalgrid.Proofs.Settings.Checks

set_option autoImplicit false

namespace Signalgrid

namespace ControlRoom

structure Fresh (settings : Settings) (replica primary : Store) (now : Instant) (room : ControlRoom) : Prop where
  grid : room.controller.grid = .ofSettings settings
  policy : room.controller.policy = .ofSettings settings
  cells : ∀ id, room.controller.cell? id = if id ∈ settings.intersections then some (.start now) else none
  once : room.controller.names.Nodup
  replica : room.archive.replica = replica
  primary : room.archive.primary = primary
  queue : room.archive.queue = []
  depth : room.archive.depth = settings.primary.queueDepth ∧ 0 < room.archive.depth
  retries : room.archive.retries = settings.timings.probeRetries ∧ 0 < room.archive.retries
  watch : room.archive.watch = {}
  counters : room.archive.counters = {}
  audit : room.archive.audit = {}
  topics : room.topics = settings.ingest.topics

def opened (settings : Settings) (replica primary : Store) (now : Instant) : ControlRoom :=
  { controller := .ofSettings settings now
    archive :=
      { replica := replica
        primary := primary
        depth := max 1 settings.primary.queueDepth
        retries := settings.timings.probeRetries }
    topics := settings.ingest.topics }

theorem start?_eq (settings : Settings) (replica primary : Store) (now : Instant) :
    start? settings replica primary now =
      if settings.primary.queueDepth ≤ Archive.maxDepth then some (opened settings replica primary now) else none := by
  rw [start?, Archive.start?]
  split <;> rfl

theorem opened_fresh {settings : Settings} (valid : settings.validate.isOk = true) (replica primary : Store)
    (now : Instant) : (opened settings replica primary now).Fresh settings replica primary now := by
  have sound := Settings.validate_sound valid
  have depth : max 1 settings.primary.queueDepth = settings.primary.queueDepth :=
    Nat.max_eq_right sound.primary.depth
  exact
    { grid := rfl
      policy := rfl
      cells := fun id => Controller.cell?_ofSettings settings now id
      once := by
        rw [opened, Controller.names_ofSettings]
        exact Grid.distinct_nodup [] _
      replica := rfl
      primary := rfl
      queue := rfl
      depth := ⟨depth, Nat.lt_of_lt_of_le Nat.one_pos (Nat.le_max_left _ _)⟩
      retries := ⟨rfl, sound.timings.retries⟩
      watch := rfl
      counters := rfl
      audit := rfl
      topics := rfl }

end ControlRoom

namespace Service

theorem startWith_valid {settings : Settings} (valid : settings.validate.isOk = true) (replica primary : Store)
    (now : Instant) :
    startWith settings replica primary now =
      if settings.primary.queueDepth ≤ Archive.maxDepth then .ok (.opened settings replica primary now)
      else .error .tooDeep := by
  rw [startWith, Settings.validate_isOk.mp valid, ControlRoom.start?_eq]
  by_cases fits : settings.primary.queueDepth ≤ Archive.maxDepth
  · rw [if_pos fits, if_pos fits]
    rfl
  · rw [if_neg fits, if_neg fits]
    rfl

/-- Accepted settings give a control room, unless the queue is too deep to be set up. -/
theorem startWith_exact {settings : Settings} (valid : settings.validate.isOk = true) (replica primary : Store)
    (now : Instant) :
    (settings.primary.queueDepth ≤ Archive.maxDepth →
        ∃ room, startWith settings replica primary now = .ok room ∧ room.Fresh settings replica primary now) ∧
      (Archive.maxDepth < settings.primary.queueDepth →
        startWith settings replica primary now = .error .tooDeep) := by
  rw [startWith_valid valid]
  constructor
  · intro fits
    exact ⟨_, if_pos fits, ControlRoom.opened_fresh valid replica primary now⟩
  · intro deep
    exact if_neg (Nat.not_le.mpr deep)

theorem startWith_exact_deepest :
    let settings : Settings := { primary := { queueDepth := Archive.maxDepth } }
    settings.validate.isOk = true ∧
      ∃ room, startWith settings (.log { name := "replica" }) (.log { name := "primary" }) .epoch = .ok room ∧
        room.archive.depth = Archive.maxDepth := by
  intro settings
  have valid : settings.validate.isOk = true := by decide +kernel
  obtain ⟨room, started, fresh⟩ :=
    (startWith_exact valid (.log { name := "replica" }) (.log { name := "primary" }) .epoch).1 (Nat.le_refl _)
  exact ⟨valid, room, started, fresh.depth.1⟩

theorem deep_queue_accepted :
    let settings : Settings := { primary := { queueDepth := Archive.maxDepth + 1 } }
    settings.validate.isOk = true ∧
      startWith settings (.log { name := "replica" }) (.log { name := "primary" }) .epoch = .error .tooDeep := by
  intro settings
  have valid : settings.validate.isOk = true := by decide +kernel
  have deep : Archive.maxDepth < settings.primary.queueDepth := Nat.lt_succ_self _
  refine ⟨valid, ?_⟩
  rw [startWith_valid valid, if_neg (Nat.not_le.mpr deep)]

end Service

end Signalgrid
