import Signalgrid.Sensor.Line
import Signalgrid.Settings.Validate
import Signalgrid.Proofs.Time.Moments

set_option autoImplicit false

namespace Signalgrid

namespace Intake

section

variable {α β ε : Type}

theorem bind_overflow {i : Intake α} {f : α → Intake β} :
    i >>= f = .overflow ↔ i = .overflow ∨ ∃ a, i = .accepted a ∧ f a = .overflow := by
  change i.bind f = .overflow ↔ _
  cases i <;> simp [bind]

theorem ofExcept_settled (wrap : ε → LineFault) (x : Except ε α) : ofExcept wrap x ≠ .overflow := by
  cases x <;> simp [ofExcept]

theorem ofExcept_accepted {wrap : ε → LineFault} {x : Except ε α} {a : α} :
    ofExcept wrap x = .accepted a ↔ x = .ok a := by
  cases x <;> simp [ofExcept]

theorem bind_settled {i : Intake α} (settled : i ≠ .overflow) {f : α → Intake β} :
    i >>= f = .overflow ↔ ∃ a, i = .accepted a ∧ f a = .overflow := by
  simp [bind_overflow, settled]

end

end Intake

namespace Instant

/-- A leap second counts as the second before it on the way forward, and as the one after it on the way
back. -/
def landing (t : Instant) (seconds : Int) : Int :=
  t.seconds + seconds + if t.isLeap ∧ seconds < 0 then 1 else 0

theorem add?_seconds_isSome (t : Instant) (seconds : Int) :
    (t.add? ⟨seconds * 1000000000⟩).isSome ↔
      firstSecond ≤ t.landing seconds ∧ t.landing seconds ≤ lastSecond := by
  have whole : (⟨seconds * 1000000000⟩ : Span).wholeSeconds = seconds := by
    simp [Span.wholeSeconds, Span.perSecond]
  have part : (⟨seconds * 1000000000⟩ : Span).subNanos = 0 := by
    simp [Span.subNanos, Span.perSecond]
  have first := t.first_le
  have last := t.le_last
  have nanos := t.nanos_lt
  have ends := t.leap_ends
  simp only [firstSecond, lastSecond, landing, isLeap_eq_true]
  cases leap : t.isLeap with
  | false =>
    simp only [add?_plain leap, ofNanos?_isSome, stamp, firstSecond, lastSecond]
    rw [isLeap_eq_false] at leap
    split_ifs <;> omega
  | true =>
    rw [isLeap_eq_true] at leap
    simp only [add?, whole, part, if_pos leap]
    split_ifs <;> simp only [ofNanos?_isSome, ofParts?_isSome, firstSecond, lastSecond] <;> omega

theorem ofSeconds?_add?_isSome (t : Instant) (seconds : Int) :
    ((Span.ofSeconds? seconds).bind t.add?).isSome ↔
      firstSecond ≤ t.landing seconds ∧ t.landing seconds ≤ lastSecond := by
  unfold Span.ofSeconds? Span.ofNanos?
  split
  next => exact t.add?_seconds_isSome seconds
  next long =>
    have first := t.first_le
    have last := t.le_last
    simp only [Span.max, Span.perSecond] at long
    simp only [Option.bind_none, Option.isSome_none, Bool.false_eq_true, false_iff, landing, firstSecond,
      lastSecond]
    split_ifs <;> omega

end Instant

namespace SensorLine

theorem count_accepted {field : String} {value : Int} {n : Nat} :
    count field value = .accepted n ↔ (0 ≤ value ∧ value < 4294967296) ∧ value.toNat = n := by
  unfold count
  split
  next inside => simp [inside]
  next outside => simp [outside]

theorem count_settled (field : String) (value : Int) : count field value ≠ .overflow := by
  unfold count
  split <;> simp

theorem speed_settled (field : String) (value : Float) : speed field value ≠ .overflow := by
  unfold speed
  split <;> simp

theorem time_settled (field raw : String) : time field raw ≠ .overflow :=
  Intake.ofExcept_settled _ _

theorem time_accepted {field raw : String} {t : Instant} :
    time field raw = .accepted t ↔ Instant.ofStrict raw = .ok t := Intake.ofExcept_accepted

theorem intersection_settled (g : Grid) (name : String) : intersection g name ≠ .overflow :=
  Intake.ofExcept_settled _ _

theorem intersection_accepted {g : Grid} {name id : String} :
    intersection g name = .accepted id ↔ name ∈ g.ids ∧ name = id := by
  unfold intersection
  rw [Intake.ofExcept_accepted, Grid.resolve]
  split <;> simp_all

theorem gpsPlace_settled (g : Grid) (p : GpsPayload) : gpsPlace g p ≠ .overflow := by
  unfold gpsPlace
  split
  · exact intersection_settled g _
  · split <;> simp

theorem camera_settled (g : Grid) (p : CameraPayload) : camera g p ≠ .overflow := by
  simp [camera, Intake.bind_overflow, intersection_settled, count_settled, speed_settled, time_settled,
    pure]

theorem gps_settled (g : Grid) (p : GpsPayload) : gps g p ≠ .overflow := by
  simp [gps, Intake.bind_overflow, gpsPlace_settled, speed_settled, time_settled, pure]

theorem derivedEnd_overflow (start : Instant) (seconds : Int) :
    derivedEnd start seconds = .overflow ↔
      ¬ (Instant.firstSecond ≤ start.landing seconds ∧ start.landing seconds ≤ Instant.lastSecond) := by
  rw [← start.ofSeconds?_add?_isSome seconds, derivedEnd]
  cases (Span.ofSeconds? seconds).bind start.add? <;> simp

structure LoopPayload.Overruns (g : Grid) (p : LoopPayload) (start : Instant) (seconds : Int) : Prop where
  listed : p.intersection ∈ g.ids
  counted : 0 ≤ p.count ∧ p.count < 4294967296
  started : Instant.ofStrict p.start = .ok start
  unended : p.stop = none ∨ p.stop = some ""
  derived : p.seconds = some seconds
  outside : ¬ (Instant.firstSecond ≤ start.landing seconds ∧ start.landing seconds ≤ Instant.lastSecond)

theorem loopEnd_overflow (p : LoopPayload) (start : Instant) :
    loopEnd p start = .overflow ↔
      (p.stop = none ∨ p.stop = some "") ∧
        ∃ seconds, p.seconds = some seconds ∧ derivedEnd start seconds = .overflow := by
  unfold loopEnd
  cases stop : p.stop with
  | none => cases p.seconds <;> simp
  | some raw =>
    by_cases blank : raw = ""
    · subst blank
      have empty : ("" : String).isEmpty = true := rfl
      cases p.seconds <;> simp [Option.filter, empty]
    · have filled : raw.isEmpty = false := by simpa using blank
      simp [Option.filter, filled, blank, time_settled]

theorem loop_overflow (g : Grid) (p : LoopPayload) :
    loop g p = .overflow ↔ ∃ start seconds, p.Overruns g start seconds := by
  -- Once the end is there, the interval is a reading or reversed.
  have ended : ∀ id n start,
      (loopEnd p start >>= fun stop =>
        if stop < start then Intake.rejected .reversedInterval
        else pure (⟨id, p.sensor, stop, .vehicles n start stop⟩ : Reading)) = .overflow ↔
        loopEnd p start = .overflow := by
    intro id n start
    rw [Intake.bind_overflow, or_iff_left]
    rintro ⟨stop, _, settled⟩
    split at settled <;> cases settled
  simp only [loop, Intake.bind_settled (intersection_settled _ _), Intake.bind_settled (count_settled _ _),
    Intake.bind_settled (time_settled _ _), ended, loopEnd_overflow, derivedEnd_overflow,
    intersection_accepted, count_accepted, time_accepted]
  constructor
  · rintro ⟨_, ⟨listed, rfl⟩, _, ⟨counted, rfl⟩, start, started, unended, seconds, derived, outside⟩
    exact ⟨start, seconds, listed, counted, started, unended, derived, outside⟩
  · rintro ⟨start, seconds, overruns⟩
    exact ⟨_, ⟨overruns.listed, rfl⟩, _, ⟨overruns.counted, rfl⟩, start, overruns.started,
      overruns.unended, seconds, overruns.derived, overruns.outside⟩

def Overrun (g : Grid) (topic : Option String) (payload : Json) : Prop :=
  ∃ members p start seconds, payload.canonical = .obj members ∧
    kindOf g topic (.obj members) = some .inductiveLoop ∧ decodeLoop .tree (.obj members) = .ok p ∧
    p.Overruns g start seconds

theorem ofKind_overflow (g : Grid) (payload : Json) (kind : SensorKind) :
    ofKind g payload kind = .overflow ↔
      kind = .inductiveLoop ∧
        ∃ p, decodeLoop .tree payload = .ok p ∧ ∃ start seconds, p.Overruns g start seconds := by
  have decoded {α : Type} (x : Except DecodeFault α) (f : α → Intake Reading) :
      (Intake.ofExcept (.schema kind) x).bind f = .overflow ↔ ∃ p, x = .ok p ∧ f p = .overflow := by
    cases x <;> simp [Intake.ofExcept, Intake.bind]
  cases kind with
  | camera => simp [ofKind, decoded, camera_settled]
  | inductiveLoop => simp [ofKind, decoded, loop_overflow]
  | gps => simp [ofKind, decoded, gps_settled]

theorem ofPayload_overflow (g : Grid) (topic : Option String) (payload : Json) :
    ofPayload g topic payload = .overflow ↔ Overrun g topic payload := by
  unfold ofPayload Overrun
  split
  next members same =>
    simp only [same]
    cases kind : kindOf g topic (.obj members) with
    | none => simp [kind]
    | some kind => simp [ofKind_overflow, *]
  next other =>
    simp only [reduceCtorEq, false_iff]
    rintro ⟨members, _, _, _, same, _⟩
    exact other members same

/-- No fault is told where a loop's interval leaves the calendar, and only there. -/
theorem overflow_exact (g : Grid) :
    (∀ topic payload, ofPayload g topic payload = .overflow ↔ Overrun g topic payload) ∧
      ∀ line, parse g line = .overflow ↔
        ∃ topic body payload, split line = some (topic, body) ∧ Json.read body = some payload ∧
          Overrun g topic payload := by
  refine ⟨ofPayload_overflow g, fun line => ?_⟩
  unfold parse
  cases found : split line with
  | none => simp
  | some parts =>
    obtain ⟨topic, body⟩ := parts
    cases read : Json.read body with
    | none => simp [read]
    | some payload =>
      simp only [read, ofPayload_overflow]
      constructor
      · exact fun overrun => ⟨topic, body, payload, rfl, read, overrun⟩
      · rintro ⟨_, _, payload', same, read', overrun⟩
        cases same
        rw [read, Option.some.injEq] at read'
        exact read' ▸ overrun

theorem overflow_longest :
    ({} : Settings).validate.isOk = true ∧
      parse (.ofSettings {})
        ("espira \x7b\"sensor_id\":\"E\",\"interseccion\":\"INT-A1\",\"vehiculos_contados\":1," ++
          "\"timestamp_inicio\":\"2025-02-01T10:00:00Z\"," ++
          "\"intervalo_segundos\":9223372036854775807\x7d").toList = .overflow := by
  constructor <;> decide +kernel

end SensorLine

end Signalgrid
