import Signalgrid.Json.Reader
import Signalgrid.Text.Blank
import Mathlib.Tactic.SplitIfs

set_option autoImplicit false

namespace Signalgrid.Json

section

variable {s s' : Scan} {out out' : List Token} {c : Char}

theorem scanFresh_adds (scanned : scanFresh out c = some (s', out')) : out <:+ out' := by
  unfold scanFresh at scanned
  split at scanned
  · cases scanned
    exact List.suffix_rfl
  · split at scanned
    case h_8 => split_ifs at scanned <;> cases scanned <;> exact List.suffix_rfl
    case h_7 => cases scanned; exact List.suffix_rfl
    all_goals
      cases scanned
      exact List.suffix_cons _ _

theorem finishUnicode_adds {done : List Char} {code : Nat}
    (scanned : finishUnicode done out code = some (s', out')) : out <:+ out' := by
  unfold finishUnicode at scanned
  split_ifs at scanned <;> cases scanned <;> exact List.suffix_rfl

theorem finishPair_adds {done : List Char} {high low : Nat}
    (scanned : finishPair done out high low = some (s', out')) : out <:+ out' := by
  unfold finishPair at scanned
  split_ifs at scanned
  cases scanned
  exact List.suffix_rfl

theorem scanChar_adds (scanned : scanChar (s, out) c = some (s', out')) : out <:+ out' := by
  cases s with
  | between => exact scanFresh_adds scanned
  | word done =>
    simp only [scanChar] at scanned
    split at scanned
    · cases scanned
      exact List.suffix_rfl
    · obtain ⟨j, _, fresh⟩ := Option.bind_eq_some_iff.mp scanned
      exact (List.suffix_cons _ _).trans (scanFresh_adds fresh)
  | number done =>
    simp only [scanChar] at scanned
    split at scanned
    · cases scanned
      exact List.suffix_rfl
    · obtain ⟨j, _, fresh⟩ := Option.bind_eq_some_iff.mp scanned
      exact (List.suffix_cons _ _).trans (scanFresh_adds fresh)
  | inText done =>
    simp only [scanChar] at scanned
    split_ifs at scanned <;> cases scanned
    · exact List.suffix_cons _ _
    · exact List.suffix_rfl
    · exact List.suffix_rfl
  | escape done =>
    simp only [scanChar] at scanned
    split at scanned
    · cases scanned
      exact List.suffix_rfl
    · obtain ⟨d, _, same⟩ := Option.map_eq_some_iff.mp scanned
      cases same
      exact List.suffix_rfl
  | unicode done digits code =>
    obtain ⟨n, _, more⟩ := Option.bind_eq_some_iff.mp scanned
    split_ifs at more
    · exact finishUnicode_adds more
    · cases more
      exact List.suffix_rfl
  | afterHigh done high =>
    simp only [scanChar] at scanned
    split_ifs at scanned
    cases scanned
    exact List.suffix_rfl
  | afterHighSlash done high =>
    simp only [scanChar] at scanned
    split_ifs at scanned
    cases scanned
    exact List.suffix_rfl
  | lowUnicode done high digits code =>
    obtain ⟨n, _, more⟩ := Option.bind_eq_some_iff.mp scanned
    split_ifs at more
    · exact finishPair_adds more
    · cases more
      exact List.suffix_rfl

theorem foldlM_adds {cs : List Char} (scanned : cs.foldlM scanChar (s, out) = some (s', out')) :
    out <:+ out' := by
  induction cs generalizing s out with
  | nil =>
    cases scanned
    exact List.suffix_rfl
  | cons c rest ih =>
    rw [List.foldlM_cons] at scanned
    obtain ⟨⟨s₁, out₁⟩, first, others⟩ := Option.bind_eq_some_iff.mp scanned
    exact (scanChar_adds first).trans (ih others)

end

theorem finishScan_adds {s : Scan} {out tokens : List Token}
    (finished : finishScan (s, out) = some tokens) : out.reverse <+: tokens := by
  cases s with
  | between =>
    obtain rfl := Option.some.inj finished
    exact List.prefix_rfl
  | word done =>
    obtain ⟨j, _, same⟩ := Option.bind_eq_some_iff.mp finished
    obtain rfl := Option.some.inj same
    exact List.reverse_prefix.mpr (List.suffix_cons _ _)
  | number done =>
    obtain ⟨j, _, same⟩ := Option.bind_eq_some_iff.mp finished
    obtain rfl := Option.some.inj same
    exact List.reverse_prefix.mpr (List.suffix_cons _ _)
  | _ => simp [finishScan] at finished

theorem scan_front {front rest : List Char} {out tokens : List Token}
    (begun : front.foldlM scanChar (.between, []) = some (.between, out))
    (scanned : scan (front ++ rest) = some tokens) : out.reverse <+: tokens := by
  obtain ⟨⟨s, all⟩, read, finished⟩ := Option.bind_eq_some_iff.mp scanned
  rw [List.foldlM_append, begun] at read
  have added : out <:+ all := foldlM_adds read
  exact (List.reverse_prefix.mpr added).trans (finishScan_adds finished)

def Begun (m : Member) (b : Build) : Prop :=
  (∃ done key, [.members done key] <:+ b.stack ∧ done.getLast? = some m) ∨
    b.stack = [] ∧
      ((∃ done, b.awaiting = .key done ∧ done.getLast? = some m) ∨
        (∃ done key, b.awaiting = .colon done key ∧ done.getLast? = some m) ∨
        ∃ rest, b.awaiting = .commaOrClose (.obj (m :: rest)))

section

variable {m : Member} {stack : List Frame} {awaiting : Awaiting} {done : List Member} {key : String}
  {depth : Nat} {t : Token} {b : Build}

theorem Begun.inside (within : [.members done key] <:+ stack) (first : done.getLast? = some m) :
    Begun m ⟨stack, awaiting⟩ := .inl ⟨done, key, within, first⟩

theorem Begun.start (within : [.members done key] <:+ stack) (first : done.getLast? = some m)
    (started : Build.start ⟨stack, awaiting⟩ depth t = some b) : Begun m b := by
  cases t with
  | opening list =>
    simp only [Build.start, Build.opened] at started
    split_ifs at started <;> cases started <;> exact inside within first
  | scalar j =>
    cases started
    exact inside within first
  | text s =>
    cases started
    exact inside within first
  | closing list => cases started
  | comma => cases started
  | colon => cases started

theorem Begun.valued {last : Json} (within : [.members done key] <:+ stack)
    (first : done.getLast? = some m)
    (stepped : Build.step depth ⟨stack, .commaOrClose last⟩ t = some b) : Begun m b := by
  have still : ∀ member : Member, (member :: done).getLast? = some m := by
    intro member
    rw [List.getLast?_cons, first]
    rfl
  simp only [Build.step] at stepped
  split at stepped
  case h_1 =>
    cases stepped
    rcases List.suffix_cons_iff.mp within with outermost | deeper
    · cases outermost
    · exact .inside (deeper.trans (List.suffix_cons _ _)) first
  case h_2 =>
    cases stepped
    rcases List.suffix_cons_iff.mp within with outermost | deeper
    · cases outermost
    · exact .inside deeper first
  case h_3 =>
    cases stepped
    rcases List.suffix_cons_iff.mp within with outermost | deeper
    · cases outermost
      exact .inr ⟨rfl, .inl ⟨_, rfl, still _⟩⟩
    · exact .inside deeper first
  case h_4 =>
    cases stepped
    rcases List.suffix_cons_iff.mp within with outermost | deeper
    · cases outermost
      obtain ⟨others, whole⟩ :=
        List.head?_eq_some_iff.mp (List.head?_reverse.trans (still (key, last)))
      exact .inr ⟨rfl, .inr (.inr ⟨others, by rw [whole]⟩)⟩
    · exact .inside deeper first
  case h_5 => cases stepped

theorem step_begun {b' : Build} (begun : Begun m b) (stepped : b.step depth t = some b') :
    Begun m b' := by
  obtain ⟨stack, awaiting⟩ := b
  rcases begun with ⟨done, key, within, first⟩ | ⟨empty, begun⟩
  · simp only at within
    cases awaiting with
    | value => exact .start within first stepped
    | itemOrClose =>
      simp only [Build.step] at stepped
      split at stepped
      · cases stepped
        exact .inside within first
      · exact .start (within.trans (List.suffix_cons _ _)) first stepped
    | keyOrClose =>
      simp only [Build.step] at stepped
      split at stepped <;> cases stepped <;> exact .inside within first
    | key members =>
      simp only [Build.step] at stepped
      split at stepped <;> cases stepped
      exact .inside within first
    | colon members name =>
      simp only [Build.step] at stepped
      split at stepped <;> cases stepped
      exact .inside (within.trans (List.suffix_cons _ _)) first
    | commaOrClose last => exact .valued within first stepped
  · simp only at empty begun
    subst empty
    rcases begun with ⟨done, rfl, first⟩ | ⟨done, key, rfl, first⟩ | ⟨rest, rfl⟩
    · simp only [Build.step] at stepped
      split at stepped <;> cases stepped
      exact .inr ⟨rfl, .inr (.inl ⟨done, _, rfl, first⟩)⟩
    · simp only [Build.step] at stepped
      split at stepped <;> cases stepped
      exact .inside List.suffix_rfl first
    · simp [Build.step] at stepped

theorem foldlM_begun {ts : List Token} {b' : Build} (begun : Begun m b)
    (built : ts.foldlM (Build.step depth) b = some b') : Begun m b' := by
  induction ts generalizing b with
  | nil =>
    cases built
    exact begun
  | cons t rest ih =>
    rw [List.foldlM_cons] at built
    obtain ⟨b₁, first, others⟩ := Option.bind_eq_some_iff.mp built
    exact ih (step_begun begun first) others

theorem finish_begun {j : Json} (begun : Begun m b) (finished : b.finish = some j) :
    ∃ rest, j = .obj (m :: rest) := by
  obtain ⟨stack, awaiting⟩ := b
  simp only [Build.finish] at finished
  split at finished
  next last =>
    cases finished
    simpa [Begun] using begun
  next => cases finished

end

theorem read_front {front rest : List Char} {key value : String} {j : Json}
    (scanned : front.foldlM scanChar (.between, []) =
      some (.between, [.comma, .text value, .colon, .text key, .opening false]))
    (found : read (front ++ rest) = some j) : ∃ others, j = .obj ((key, .str value) :: others) := by
  obtain ⟨tokens, all, built⟩ := Option.bind_eq_some_iff.mp found
  obtain ⟨more, rfl⟩ := scan_front scanned all
  obtain ⟨b, folded, finished⟩ := Option.bind_eq_some_iff.mp built
  have later : more.foldlM (Build.step 127) ⟨[], .key [(key, .str value)]⟩ = some b := folded
  exact finish_begun (foldlM_begun (.inr ⟨rfl, .inl ⟨_, rfl, rfl⟩⟩) later) finished

theorem isBlank_other {c : Char} (blank : Text.isBlank c = true) :
    c.isDigit = false ∧ c.isAlpha = false := by
  simp only [Text.isBlank, Bool.or_eq_true, Bool.and_eq_true, decide_eq_true_eq, beq_iff_eq] at blank
  have same : c.val.toNat = c.toNat := rfl
  have letter : c.isAlpha =
      (decide (c.val ≥ 65 ∧ c.val ≤ 90) || (decide (c.val ≥ 97) && decide (c.val ≤ 122))) := rfl
  simp only [Char.isDigit, letter, Bool.or_eq_false_iff, Bool.and_eq_false_iff, decide_eq_false_iff_not,
    ge_iff_le, UInt32.le_iff_toNat_le, same, Char.reduceVal, UInt32.reduceToNat]
  omega

theorem scanFresh_blank {c : Char} (blank : Text.isBlank c = true) {out : List Token} {x : Scanned}
    (scanned : scanFresh out c = some x) : x = (.between, out) := by
  unfold scanFresh at scanned
  split at scanned
  next => exact (Option.some.inj scanned).symm
  next =>
    split at scanned
    case h_8 =>
      obtain ⟨digit, letter⟩ := isBlank_other blank
      have minus : (c == '-') = false := by
        rw [beq_eq_false_iff_ne]
        rintro rfl
        exact absurd blank (by decide)
      simp [digit, letter, minus] at scanned
    all_goals exact absurd blank (by decide)

theorem scan_blank {cs : List Char} (blank : Text.allBlank cs = true) :
    scan cs = none ∨ scan cs = some [] := by
  have stays : ∀ x, cs.foldlM scanChar (.between, []) = some x → x = (.between, []) := by
    induction cs with
    | nil =>
      rintro x ⟨⟩
      rfl
    | cons c rest ih =>
      intro x scanned
      rw [Text.allBlank, List.all_cons, Bool.and_eq_true] at blank
      rw [List.foldlM_cons] at scanned
      obtain ⟨y, first, others⟩ := Option.bind_eq_some_iff.mp scanned
      obtain rfl := scanFresh_blank blank.1 first
      exact ih blank.2 x others
  rw [scan]
  cases scanned : cs.foldlM scanChar (.between, []) with
  | none => exact .inl rfl
  | some x =>
    obtain rfl := stays x scanned
    exact .inr rfl

theorem read_blank {cs : List Char} (blank : Text.allBlank cs = true) : read cs = none := by
  rw [read, readWithin]
  rcases scan_blank blank with none | nothing
  · rw [none]
    rfl
  · rw [nothing]
    rfl

end Signalgrid.Json
