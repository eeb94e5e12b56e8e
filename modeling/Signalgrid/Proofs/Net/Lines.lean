import Signalgrid.Proofs.Net.Frames

set_option autoImplicit false

namespace Signalgrid.Frame

def lines : Bytes → List Bytes
  | [] => []
  | b :: rest =>
      if b = newline then [b] :: lines rest
      else match lines rest with
        | [] => [[b]]
        | line :: more => (b :: line) :: more

theorem lines_flatten (stream : Bytes) : (lines stream).flatten = stream := by
  induction stream with
  | nil => rfl
  | cons b rest ih =>
    rw [lines]
    split_ifs with ends
    · rw [List.flatten_cons, ih, List.singleton_append]
    · split
      next none =>
        rw [none] at ih
        rw [← ih]
        rfl
      next line more some =>
        rw [some] at ih
        rw [← ih]
        rfl

theorem lines_eq {stream : Bytes} (filled : stream ≠ []) :
    lines stream =
      (stream.takeWhile (· != newline) ++ (stream.dropWhile (· != newline)).take 1) ::
        lines ((stream.dropWhile (· != newline)).drop 1) := by
  induction stream with
  | nil => exact absurd rfl filled
  | cons b rest ih =>
    by_cases ends : b = newline
    · simp [lines, ends]
    · cases rest with
      | nil => simp [lines, ends]
      | cons c more => rw [lines, if_neg ends, ih (List.cons_ne_nil c more)]; simp [ends]

theorem lines_length_le (stream : Bytes) : (lines stream).length ≤ stream.length := by
  induction stream with
  | nil => exact Nat.le_refl 0
  | cons b rest ih =>
    rw [lines]
    split_ifs with ends
    · simp only [List.length_cons]
      omega
    · split
      next => simp
      next line more some =>
        rw [some] at ih
        simp only [List.length_cons] at ih ⊢
        omega

theorem lines_append {line : Bytes} (one : newline ∉ line) (rest : Bytes) :
    lines (line ++ newline :: rest) = (line ++ [newline]) :: lines rest := by
  rw [lines_eq (by simp), takeWhile_line one, dropWhile_line one]
  rfl

theorem lines_append_ended {stream : Bytes} (ended : stream.getLast? = some newline) (more : Bytes) :
    lines (stream ++ more) = lines stream ++ lines more := by
  induction stream with
  | nil => cases ended
  | cons b rest ih =>
    cases rest with
    | nil =>
      obtain rfl := Option.some.inj ended
      simp [lines]
    | cons c rest =>
      rw [List.getLast?_cons_cons] at ended
      have back := ih ended
      rw [List.cons_append, lines, lines, back]
      split_ifs with ends
      · rfl
      · rw [lines_eq (List.cons_ne_nil c rest)]
        rfl

theorem lines_write (values : List Json) : lines (values.flatMap write) = values.map write := by
  induction values with
  | nil => rfl
  | cons j rest ih =>
    rw [List.flatMap_cons, write_eq, List.append_assoc, List.singleton_append,
      lines_append (newline_notMem_line j), ih, List.map_cons, write_eq]

def body (line : Bytes) : Bytes := stripReturns (line.takeWhile (· != newline))

def content (line : Bytes) : Except FrameFault (List Char) :=
  if maxSize < line.length then .error .tooLarge
  else asText (stripReturns (line.takeWhile (· != newline)))

def filled (line : Bytes) : Bool :=
  match content line with
  | .ok cs => !Text.allBlank cs
  | .error _ => true

def filledLines (stream : Bytes) : List Bytes := (lines stream).filter filled

def isText (line : Bytes) : Bool := (content line).isOk

theorem filled_text {line : Bytes} {cs : List Char} (text : content line = .ok cs) :
    filled line = !Text.allBlank cs := by
  rw [filled, text]

theorem filled_fault {line : Bytes} {e : FrameFault} (fault : content line = .error e) :
    filled line = true := by
  rw [filled, fault]

theorem content_fits {line : Bytes} (fits : line.length ≤ maxSize) :
    content line ≠ .error .tooLarge := by
  rw [content, if_neg (Nat.not_lt.mpr fits), asText]
  cases Text.decodeUtf8 (stripReturns (line.takeWhile (· != newline))) with
  | ok cs => intro same; cases same
  | error e => intro same; cases same

theorem filledLines_length_le (stream : Bytes) : (filledLines stream).length ≤ stream.length :=
  Nat.le_trans (List.length_filter_le filled (lines stream)) (lines_length_le stream)

section

variable {stream line : Bytes} {more : List Bytes}

theorem lines_rest (cut : lines stream = line :: more) : lines more.flatten = more := by
  have some : stream ≠ [] := by
    rintro rfl
    cases cut
  rw [lines_eq some, List.cons.injEq] at cut
  rw [← cut.2, lines_flatten]

/-- A line that is too long is cut, so that nothing is known of the rest. -/
theorem takeRaw_line (cut : lines stream = line :: more) :
    takeRaw stream =
      if maxSize < line.length then ⟨.error .tooLarge, stream.drop (maxSize + 1)⟩
      else ⟨.ok (some (body line)), more.flatten⟩ := by
  have some : stream ≠ [] := by
    rintro rfl
    cases cut
  rw [lines_eq some, List.cons.injEq] at cut
  obtain ⟨rfl, rfl⟩ := cut
  rw [lines_flatten]
  generalize front : stream.takeWhile (· != newline) = xs
  generalize after : stream.dropWhile (· != newline) = ys
  have size : (xs ++ ys.take 1).length = xs.length + if ys.isEmpty then 0 else 1 := by
    cases ys <;> simp
  have same : body (xs ++ ys.take 1) = stripReturns xs := by
    have inside : ∀ b ∈ xs, (b != newline) = true := by
      rw [← front]
      exact List.all_eq_true.mp List.all_takeWhile
    rw [body, List.takeWhile_append_of_pos inside]
    cases ys with
    | nil => simp
    | cons b rest =>
      have ends : (b != newline) = false := by
        have head := List.head_dropWhile_not (· != newline) (l := stream) (by rw [after]; simp)
        simpa [after] using head
      simp [ends]
  unfold takeRaw
  split
  next => exact absurd rfl some
  next => rw [size, same]; simp only [front, after]

theorem takeText_line (cut : lines stream = line :: more) :
    (takeText stream).result = (content line).map some ∧
      (content line ≠ .error .tooLarge → lines (takeText stream).rest = more) := by
  rw [content, takeText, takeRaw_line cut]
  split_ifs with long
  · exact ⟨rfl, fun short => absurd rfl short⟩
  · exact ⟨rfl, fun _ => lines_rest cut⟩

theorem takeFilled_text {fuel : Nat} {cs : List Char}
    (taken : (takeText stream).result = .ok (.some cs)) :
    takeFilled (fuel + 1) stream =
      if Text.allBlank cs then takeFilled fuel (takeText stream).rest else takeText stream := by
  rw [takeFilled]
  simp only [taken]

theorem takeFilled_fault {fuel : Nat} {e : FrameFault}
    (taken : (takeText stream).result = .error e) :
    takeFilled (fuel + 1) stream = takeText stream := by
  rw [takeFilled]
  simp only [taken]

def Takes (r : Read (List Char)) : List Bytes → Prop
  | [] => r.result = .ok none
  | line :: more =>
      r.result = (content line).map some ∧
        (content line ≠ .error .tooLarge → filledLines r.rest = more)

-- By induction on the turns: each turn but the last takes a blank line.
theorem takeFilled_takes (fuel : Nat) (stream : Bytes) (enough : (lines stream).length < fuel) :
    Takes (takeFilled fuel stream) (filledLines stream) := by
  induction fuel generalizing stream with
  | zero => exact absurd enough (Nat.not_lt_zero _)
  | succ fuel ih =>
    cases cut : lines stream with
    | nil =>
      have none : stream = [] := by
        rw [← lines_flatten stream, cut]
        rfl
      subst none
      exact rfl
    | cons line more =>
      obtain ⟨result, rest⟩ := takeText_line cut
      rw [cut, List.length_cons] at enough
      rw [filledLines, cut]
      cases said : content line with
      | error e =>
        rw [said] at result rest
        rw [takeFilled_fault result, List.filter_cons_of_pos (filled_fault said)]
        refine ⟨by rw [result, said], fun short => ?_⟩
        rw [filledLines, rest (by rwa [said] at short)]
      | ok cs =>
        have left : lines (takeText stream).rest = more := rest (by rw [said]; simp)
        rw [said] at result
        rw [takeFilled_text result]
        by_cases blank : Text.allBlank cs = true
        · have skipped : ¬ filled line = true := by simp [filled_text said, blank]
          rw [if_pos blank, List.filter_cons_of_neg skipped, ← left]
          exact ih (takeText stream).rest (by rw [left]; omega)
        · have kept : filled line = true := by simp [filled_text said, blank]
          rw [if_neg blank, List.filter_cons_of_pos kept]
          exact ⟨by rw [result, said], fun _ => by rw [filledLines, left]⟩

theorem takeFilled_exact (stream : Bytes) :
    Takes (takeFilled (stream.length + 1) stream) (filledLines stream) :=
  takeFilled_takes _ stream (Nat.lt_succ_of_le (lines_length_le stream))

end

section

variable {α : Type} (d : Decoder α) {stream line : Bytes} {more : List Bytes}

def datum (line : Bytes) : Except FrameFault α :=
  (content line).bind fun cs => (d.ofText cs).mapError .notData

theorem datum_fits (fits : line.length ≤ maxSize) : datum d line ≠ .error .tooLarge := by
  have short := content_fits fits
  rw [datum]
  cases said : content line with
  | error e =>
    rw [said] at short
    intro same
    cases same
    exact short rfl
  | ok cs =>
    intro same
    simp only [Except.bind] at same
    cases decoded : d.ofText cs with
    | ok a => rw [decoded] at same; cases same
    | error e => rw [decoded] at same; cases same

theorem takeData_end (ended : filledLines stream = []) : (takeData d stream).result = .ok none := by
  have taken := takeFilled_exact stream
  rw [ended] at taken
  have none : (takeFilled (stream.length + 1) stream).result = .ok none := taken
  simp only [takeData, none]

theorem takeData_line (cut : filledLines stream = line :: more) :
    (takeData d stream).result = (datum d line).map some ∧
      (content line ≠ .error .tooLarge → filledLines (takeData d stream).rest = more) := by
  have taken := takeFilled_exact stream
  rw [cut] at taken
  obtain ⟨result, rest⟩ := taken
  rw [takeData, datum]
  cases said : content line with
  | error e =>
    rw [said] at result rest
    simp only [result, Except.map, Except.bind]
    exact ⟨trivial, rest⟩
  | ok cs =>
    rw [said] at result rest
    simp only [result, Except.map, Except.bind]
    exact ⟨trivial, rest⟩

end

end Signalgrid.Frame
