import Signalgrid.Sensor.Line
import Signalgrid.Proofs.Settings.Checks
import Mathlib.Data.List.Nodup
import Mathlib.Data.List.ProdSigma

set_option autoImplicit false

namespace Signalgrid

namespace Settings

theorem validate_nodup {s : Settings} (valid : s.validate.isOk = true) : s.rows.Nodup ∧ s.columns.Nodup :=
  ⟨(validate_sound valid).rowsOnce, (validate_sound valid).columnsOnce⟩

theorem intersectionName_toList (row : String) (column : Nat) :
    (intersectionName row column).toList =
      'I' :: 'N' :: 'T' :: '-' :: (row.toList ++ Nat.toDigits 10 column) := by
  simp [intersectionName]

theorem toDigits_injective {m n : Nat} (same : Nat.toDigits 10 m = Nat.toDigits 10 n) : m = n := by
  rw [← Nat.ofDigitChars_toDigits (b := 10) (n := m) (by decide) (by decide), same,
    Nat.ofDigitChars_toDigits (by decide) (by decide)]

theorem mem_intersections {s : Settings} {id : IntersectionId} :
    id ∈ s.intersections ↔ ∃ row ∈ s.rows, ∃ column ∈ s.columns, intersectionName row column = id := by
  simp [intersections]

theorem intersections_length (s : Settings) :
    s.intersections.length = s.rows.length * s.columns.length := by
  simp [intersections, List.length_flatMap]

theorem intersections_eq (s : Settings) :
    s.intersections = (s.rows ×ˢ s.columns).map fun p => intersectionName p.1 p.2 := by
  simp [intersections, SProd.sprod, List.product, List.map_flatMap, Function.comp_def]

def Merges (s : Settings) : Prop :=
  ∃ row ∈ s.rows, ∃ column ∈ s.columns, ∃ column' ∈ s.columns, ∃ more : String,
    more ≠ "" ∧ row ++ more ∈ s.rows ∧ toString column = more ++ toString column'

theorem run_on {s : Settings} (apart : ¬ s.Merges) {row row' : String} (first : row ∈ s.rows)
    (second : row' ∈ s.rows) {column column' : Nat} (left : column ∈ s.columns)
    (right : column' ∈ s.columns) {more : List Char} (label : row'.toList = row.toList ++ more)
    (number : Nat.toDigits 10 column = more ++ Nat.toDigits 10 column') :
    (row, column) = (row', column') := by
  have goes_on : row' = row ++ String.ofList more := String.toList_injective (by simp [label])
  by_cases nothing : more = []
  · subst nothing
    simp only [List.nil_append] at number
    rw [goes_on, toDigits_injective number]
    simp
  · refine absurd ⟨row, first, column, left, column', right, String.ofList more, ?_, goes_on ▸ second, ?_⟩
      apart
    · intro blank
      exact nothing (by simpa using congrArg String.toList blank)
    · exact String.toList_injective (by simp [number])

theorem intersections_nodup {s : Settings} (rows : s.rows.Nodup) (columns : s.columns.Nodup) :
    s.intersections.Nodup ↔ ¬ s.Merges := by
  rw [intersections_eq, List.nodup_map_iff_inj_on (rows.product columns)]
  constructor
  · rintro injective ⟨row, first, column, left, column', right, more, filled, second, number⟩
    have same := injective (row, column) (List.mem_product.mpr ⟨first, left⟩) (row ++ more, column')
      (List.mem_product.mpr ⟨second, right⟩) (by simp [intersectionName, number, String.append_assoc])
    have longer := congrArg (fun p => p.1.toList) same
    exact filled (by simpa using longer)
  · rintro apart ⟨row, column⟩ here ⟨row', column'⟩ there same
    obtain ⟨first, left⟩ := List.mem_product.mp here
    obtain ⟨second, right⟩ := List.mem_product.mp there
    have text := congrArg String.toList same
    simp only [intersectionName_toList, List.cons.injEq, true_and, List.append_eq_append_iff] at text
    rcases text with ⟨more, label, number⟩ | ⟨more, label, number⟩
    · exact run_on apart first second left right label number
    · exact (run_on apart second first right left label number).symm

theorem bareName_append {digits : List Char} (all : ∀ c ∈ digits, c.isDigit = true) (name : List Char) :
    bareName (name ++ digits) = bareName name ++ digits := by
  fun_induction bareName name with
  | case1 rest ih => simpa [bareName] using ih
  | case2 name other =>
    unfold bareName
    split
    next rest same =>
      -- The digits would have to bring the rest of INT-, or the name has it all.
      have letter : ∀ c more, digits = c :: more → c.isDigit = true := by
        rintro c more rfl
        exact all c (by simp)
      rcases name with _ | ⟨a, _ | ⟨b, _ | ⟨c, _ | ⟨d, more⟩⟩⟩⟩ <;>
        simp only [List.nil_append, List.cons_append, List.cons.injEq] at same
      · exact absurd (letter _ _ same) (by decide)
      · exact absurd (letter _ _ same.2) (by decide)
      · exact absurd (letter _ _ same.2.2) (by decide)
      · exact absurd (letter _ _ same.2.2.2) (by decide)
      · obtain ⟨rfl, rfl, rfl, rfl, _⟩ := same
        exact absurd rfl (other more)
    next => rfl

theorem bareName_intersection (row : String) (column : Nat) :
    bareName (intersectionName row column).toList =
      bareName row.toList ++ Nat.toDigits 10 column := by
  rw [intersectionName_toList, bareName]
  exact bareName_append (fun _ => Nat.isDigit_of_mem_toDigits (by decide) (by decide)) _

def Mixes (s : Settings) : Prop :=
  ∃ row ∈ s.rows, ∃ row' ∈ s.rows, ∃ column ∈ s.columns, ∃ column' ∈ s.columns, ∃ more : List Char,
    bareName row'.toList = bareName row.toList ++ more ∧ row'.toList ≠ row.toList ++ more ∧
      Nat.toDigits 10 column = more ++ Nat.toDigits 10 column'

theorem bareName_injective_iff (s : Settings) :
    (∀ id ∈ s.intersections, ∀ id' ∈ s.intersections, bareName id.toList = bareName id'.toList →
      id = id') ↔ ¬ s.Mixes := by
  constructor
  · rintro apart ⟨row, first, row', second, column, left, column', right, more, bare, other, number⟩
    have same := apart _ (mem_intersections.mpr ⟨row, first, column, left, rfl⟩) _
      (mem_intersections.mpr ⟨row', second, column', right, rfl⟩)
      (by rw [bareName_intersection, bareName_intersection, bare, number, List.append_assoc])
    have text := congrArg String.toList same
    simp only [intersectionName_toList, number, List.cons.injEq, true_and, ← List.append_assoc,
      List.append_cancel_right_eq] at text
    exact other text.symm
  · intro unmixed id listed id' listed' bare
    obtain ⟨row, first, column, left, rfl⟩ := mem_intersections.mp listed
    obtain ⟨row', second, column', right, rfl⟩ := mem_intersections.mp listed'
    rw [bareName_intersection, bareName_intersection, List.append_eq_append_iff] at bare
    by_contra differ
    rcases bare with ⟨more, label, number⟩ | ⟨more, label, number⟩
    · refine unmixed ⟨row, first, row', second, column, left, column', right, more, label, ?_, number⟩
      intro same
      exact differ (String.toList_injective (by simp [intersectionName_toList, same, number]))
    · refine unmixed ⟨row', second, row, first, column', right, column, left, more, label, ?_, number⟩
      intro same
      exact differ (String.toList_injective (by simp [intersectionName_toList, same, number]))

theorem defaultSensor_id {id id' : IntersectionId} {kind kind' : SensorKind} :
    (defaultSensor id kind).id = (defaultSensor id' kind').id ↔
      kind = kind' ∧ bareName id.toList = bareName id'.toList := by
  rw [← String.toList_inj]
  cases kind <;> cases kind' <;> simp [defaultSensor, SensorKind.stem]

section

variable {s : Settings} (none : s.sensors = [])

include none

theorem mem_sensorMap {sensor : Sensor} :
    sensor ∈ s.sensorMap ↔ ∃ id ∈ s.intersections, ∃ kind, defaultSensor id kind = sensor := by
  have every : ∀ kind : SensorKind, kind ∈ SensorKind.all := by
    intro kind
    cases kind <;> decide
  simp [sensorMap, none, every]

theorem sensorMap_apart :
    (∀ a ∈ s.sensorMap, ∀ b ∈ s.sensorMap, a.id = b.id → a.intersection = b.intersection) ↔ ¬ s.Mixes := by
  rw [← s.bareName_injective_iff]
  constructor
  · intro apart id listed id' listed' bare
    exact apart (defaultSensor id .gps) ((mem_sensorMap none).mpr ⟨id, listed, .gps, rfl⟩)
      (defaultSensor id' .gps) ((mem_sensorMap none).mpr ⟨id', listed', .gps, rfl⟩)
      (defaultSensor_id.mpr ⟨rfl, bare⟩)
  · intro injective a first b second same
    obtain ⟨id, listed, kind, rfl⟩ := (mem_sensorMap none).mp first
    obtain ⟨id', listed', kind', rfl⟩ := (mem_sensorMap none).mp second
    exact injective id listed id' listed' (defaultSensor_id.mp same).2

theorem gpsPlace_own :
    (∀ id ∈ s.intersections, ∀ kind (p : SensorLine.GpsPayload), p.intersection = .none →
      p.sensor = (defaultSensor id kind).id →
      SensorLine.gpsPlace (.ofSettings s) p = .accepted id) ↔ ¬ s.Mixes := by
  constructor
  · intro own
    rw [← s.bareName_injective_iff]
    intro id listed id' listed' bare
    let p : SensorLine.GpsPayload := ⟨(defaultSensor id .gps).id, .none, .none, 0.0, ""⟩
    have first := own id listed .gps p rfl rfl
    have second := own id' listed' .gps p rfl (defaultSensor_id.mpr ⟨rfl, bare⟩)
    rw [first] at second
    exact Intake.accepted.inj second
  · intro unmixed id listed kind p unplaced made
    have member := (mem_sensorMap none).mpr ⟨id, listed, kind, rfl⟩
    simp only [SensorLine.gpsPlace, unplaced, made, Grid.sensor?, Grid.ofSettings]
    cases found : s.sensorMap.reverse.find? (·.id == (defaultSensor id kind).id) with
    | none => simpa using List.find?_eq_none.mp found (defaultSensor id kind) (by simpa using member)
    | some sensor =>
      have among : sensor ∈ s.sensorMap := by simpa using List.mem_of_find?_eq_some found
      have named : sensor.id = (defaultSensor id kind).id := by simpa using List.find?_some found
      have place := (sensorMap_apart none).mpr unmixed sensor among _ member named
      exact congrArg Intake.accepted place

end

end Settings

end Signalgrid
