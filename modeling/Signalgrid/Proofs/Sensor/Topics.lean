import Signalgrid.ControlRoom
import Mathlib.Data.List.DropRight

set_option autoImplicit false

namespace Signalgrid

namespace Text

variable {sep : Char} {cs before after : List Char}

theorem splitOnce_eq_some_iff :
    splitOnce sep cs = some (before, after) ↔ cs = before ++ sep :: after ∧ sep ∉ before := by
  induction cs generalizing before with
  | nil => simp [splitOnce]
  | cons c rest ih =>
    by_cases here : c = sep
    · subst here
      cases before with
      | nil => simp [splitOnce]
      | cons d before => simp +contextual [splitOnce]
    · cases before with
      | nil => simp [splitOnce, here]
      | cons d before =>
        simp only [splitOnce, here, if_false, Option.map_eq_some_iff, Prod.exists, Prod.mk.injEq,
          List.cons.injEq, List.cons_append, List.mem_cons, not_or]
        constructor
        · rintro ⟨first, last, found, ⟨rfl, rfl⟩, rfl⟩
          obtain ⟨whole, clear⟩ := ih.mp found
          exact ⟨⟨rfl, whole⟩, Ne.symm here, clear⟩
        · rintro ⟨⟨rfl, whole⟩, _, clear⟩
          exact ⟨before, after, ih.mpr ⟨whole, clear⟩, ⟨rfl, rfl⟩, rfl⟩

theorem splitOnce_eq_none_iff : splitOnce sep cs = none ↔ sep ∉ cs := by
  constructor
  · intro none inside
    obtain ⟨before, after, whole, clear⟩ := List.eq_append_cons_of_mem inside
    rw [splitOnce_eq_some_iff.mpr ⟨whole, clear⟩] at none
    cases none
  · intro clear
    cases found : splitOnce sep cs with
    | none => rfl
    | some parts =>
      obtain ⟨whole, _⟩ := splitOnce_eq_some_iff.mp found
      exact absurd (by simp [whole]) clear

theorem trimStart_eq_trim (line : List Char) : ∃ blanks, trimStart line = trim line ++ blanks := by
  obtain ⟨blanks, whole⟩ := List.rdropWhile_prefix (l := trimStart line) isBlank
  exact ⟨blanks, whole.symm⟩

end Text

namespace SensorLine

def Bare (line : List Char) : Prop := ∃ rest, Text.trim line = '\x7b' :: rest

structure Worded (line word rest : List Char) : Prop where
  whole : Text.trim line = word ++ ' ' :: rest
  clear : ' ' ∉ word
  notBare : ¬ Bare line

def underTopic (g : Grid) (topic : Option String) (body : List Char) : Intake Reading :=
  match Json.read body with
  | none => .rejected .notJson
  | some payload => ofPayload g topic payload

variable {g : Grid} {line word rest body : List Char} {topics : List String}

theorem split_bare (bare : Bare line) : split line = some (none, Text.trim line) := by
  obtain ⟨rest, whole⟩ := bare
  simp [split, whole]

theorem split_notBare (notBare : ¬ Bare line) :
    split line = (Text.splitOnce ' ' (Text.trim line)).map fun (topic, body) =>
      (some (String.ofList topic), Text.trim body) := by
  unfold split
  split
  next rest whole => exact absurd ⟨rest, whole⟩ notBare
  next => rfl

theorem split_cases {topic : Option String} (parts : split line = some (topic, body)) :
    (Bare line ∧ topic = none) ∨ ∃ word rest, Worded line word rest ∧ topic = some (String.ofList word) := by
  by_cases bare : Bare line
  · rw [split_bare bare, Option.some.injEq, Prod.mk.injEq] at parts
    exact .inl ⟨bare, parts.1.symm⟩
  · rw [split_notBare bare] at parts
    obtain ⟨⟨word, rest⟩, found, same⟩ := Option.map_eq_some_iff.mp parts
    obtain ⟨whole, clear⟩ := Text.splitOnce_eq_some_iff.mp found
    exact .inr ⟨word, rest, ⟨whole, clear, bare⟩, (congrArg Prod.fst same).symm⟩

theorem split_eq_none_iff : split line = none ↔ ¬ Bare line ∧ ' ' ∉ Text.trim line := by
  by_cases bare : Bare line
  · simp [split_bare bare, bare]
  · simp [split_notBare bare, bare, Text.splitOnce_eq_none_iff]

theorem topic_bare (bare : Bare line) : topic line = none := by
  obtain ⟨rest, whole⟩ := bare
  obtain ⟨blanks, start⟩ := Text.trimStart_eq_trim line
  rw [whole, List.cons_append] at start
  simp [topic, start]

theorem topic_worded (worded : Worded line word rest) : topic line = some (String.ofList word) := by
  obtain ⟨blanks, start⟩ := Text.trimStart_eq_trim line
  rw [worded.whole, List.append_assoc, List.cons_append] at start
  unfold topic
  split
  next after begins =>
    refine absurd ?_ worded.notBare
    rw [start] at begins
    cases word with
    | nil => simp at begins
    | cons c word =>
      rw [List.cons_append, List.cons.injEq] at begins
      exact ⟨word ++ ' ' :: rest, by rw [worded.whole, begins.1, List.cons_append]⟩
  next => rw [start, Text.splitOnce_eq_some_iff.mpr ⟨rfl, worded.clear⟩, Option.map_some]

theorem topic_split {label : Option String} (parts : split line = some (label, body)) :
    topic line = label := by
  rcases split_cases parts with ⟨bare, rfl⟩ | ⟨word, rest, worded, rfl⟩
  · exact topic_bare bare
  · exact topic_worded worded

theorem parse_split {label : Option String} (parts : split line = some (label, body)) :
    parse g line = underTopic g label body := by
  rw [parse, parts]
  rfl

theorem wants_iff :
    ControlRoom.wants topics line = true ↔ topics = [] ∨ ∀ word ∈ topic line, word ∈ topics := by
  unfold ControlRoom.wants
  cases topic line <;> simp

/-- The filter and the reader of a line see one topic wherever there is a payload to be read. -/
theorem topics_agree (g : Grid) (topics : List String) (line : List Char) :
    (∀ label body, split line = some (label, body) →
      topic line = label ∧ parse g line = underTopic g (topic line) body ∧
        (label = none ↔ Bare line) ∧
        (ControlRoom.wants topics line = true ↔ topics = [] ∨ ∀ word ∈ label, word ∈ topics)) ∧
      (split line = none ↔ ¬ Bare line ∧ ' ' ∉ Text.trim line) ∧
      (split line = none → parse g line = .rejected .noPayload) ∧
      (ControlRoom.wants topics line = false →
        topics ≠ [] ∧
          ((∃ word body, split line = some (some word, body) ∧
              parse g line = underTopic g (some word) body ∧ word ∉ topics) ∨
            split line = none)) := by
  refine ⟨fun label body parts => ?_, split_eq_none_iff, fun none => by simp [parse, none], fun dropped => ?_⟩
  · have same := topic_split parts
    refine ⟨same, ?_, ?_, ?_⟩
    · rw [same]
      exact parse_split parts
    · rcases split_cases parts with ⟨bare, rfl⟩ | ⟨word, rest, worded, rfl⟩
      · simp [bare]
      · simp [worded.notBare]
    · rw [wants_iff, same]
  · have unwanted := mt wants_iff.mpr (Bool.eq_false_iff.mp dropped)
    simp only [not_or, not_forall] at unwanted
    obtain ⟨listed, word, first, unlisted⟩ := unwanted
    refine ⟨listed, ?_⟩
    cases parts : split line with
    | none => exact .inr rfl
    | some pair =>
      obtain ⟨label, body⟩ := pair
      have same := topic_split parts
      rw [Option.mem_def, same] at first
      subst first
      exact .inl ⟨word, body, rfl, parse_split parts, unlisted⟩

theorem topics_agree_unwanted :
    let line := "\tgps  \x7b\x7d\u3000".toList
    split line = some (some "gps", "\x7b\x7d".toList) ∧ topic line = some "gps" ∧
      ControlRoom.wants ["camara", "espira"] line = false ∧ ControlRoom.wants ["gps"] line = true := by
  intro line
  have parts : split line = some (some "gps", "\x7b\x7d".toList) := by decide
  obtain ⟨same, _, _, kept⟩ := (topics_agree (.ofSettings {}) ["gps"] line).1 _ _ parts
  obtain ⟨_, _, _, dropped⟩ := (topics_agree (.ofSettings {}) ["camara", "espira"] line).1 _ _ parts
  refine ⟨parts, same, ?_, kept.mpr (.inr (by decide))⟩
  exact Bool.eq_false_iff.mpr (mt dropped.mp (by decide))

end SensorLine

end Signalgrid
