import Signalgrid.Proofs.Net.Lines
import Mathlib.Data.List.TakeWhile

set_option autoImplicit false

namespace Signalgrid.Frame

def pieces (stream : Bytes) : List Bytes :=
  let parts := stream.splitOn newline
  if parts.getLast? = some [] then parts.dropLast else parts

def reads {α : Type} (take : Bytes → Read α) : Nat → Bytes → List (Except FrameFault (Option α))
  | 0, _ => []
  | n + 1, stream => (take stream).result :: reads take n (take stream).rest

theorem reads_one {α : Type} (take : Bytes → Read α) (stream : Bytes) :
    reads take 1 stream = [(take stream).result] := rfl

theorem reads_append {α : Type} {take : Bytes → Read α} {units : Bytes → List Bytes}
    {comes : Bytes → Except FrameFault (Option α)}
    (step : ∀ {stream line more}, units stream = line :: more → line.length ≤ maxSize →
      (take stream).result = comes line ∧ units (take stream).rest = more)
    {stream : Bytes} {before after : List Bytes} (cut : units stream = before ++ after)
    (fits : ∀ line ∈ before, line.length ≤ maxSize) :
    ∃ rest, units rest = after ∧
      ∀ n, reads take (before.length + n) stream = before.map comes ++ reads take n rest := by
  induction before generalizing stream with
  | nil => exact ⟨stream, cut, fun n => by simp⟩
  | cons line more ih =>
    obtain ⟨first, later⟩ := List.forall_mem_cons.mp fits
    obtain ⟨result, left⟩ := step cut first
    obtain ⟨rest, same, given⟩ := ih left later
    refine ⟨rest, same, fun n => ?_⟩
    rw [List.length_cons, Nat.add_right_comm, reads, result, given, List.map_cons, List.cons_append]

theorem pieces_newline (rest : Bytes) : pieces (newline :: rest) = [] :: pieces rest := by
  have filled := List.splitOn_ne_nil newline rest
  rw [pieces, pieces, List.splitOn_cons_eq_if_modifyHead, if_pos (beq_self_eq_true newline)]
  cases parts : rest.splitOn newline with
  | nil => exact absurd parts filled
  | cons part more =>
    simp only [List.getLast?_cons_cons, List.dropLast_cons_cons]
    split_ifs <;> rfl

theorem pieces_cons {b : UInt8} (inside : b ≠ newline) (rest : Bytes) :
    pieces (b :: rest) =
      match pieces rest with
      | [] => [[b]]
      | piece :: more => (b :: piece) :: more := by
  have filled := List.splitOn_ne_nil newline rest
  have onward : (b :: rest).splitOn newline = (rest.splitOn newline).modifyHead (List.cons b) := by
    rw [List.splitOn_cons_eq_if_modifyHead, if_neg (by simpa using inside)]
  rw [pieces, pieces, onward]
  rcases parts : rest.splitOn newline with _ | ⟨part, _ | ⟨next, more⟩⟩
  · exact absurd parts filled
  · cases part <;> rfl
  · simp only [List.modifyHead_cons, List.getLast?_cons_cons, List.dropLast_cons_cons]
    split_ifs <;> rfl

theorem lines_pieces (stream : Bytes) :
    (lines stream).map (·.takeWhile (· != newline)) = pieces stream := by
  induction stream with
  | nil => rfl
  | cons b rest ih =>
    by_cases ends : b = newline
    · subst ends
      rw [pieces_newline, ← ih]
      simp [lines]
    · rw [pieces_cons ends, ← ih, lines, if_neg ends]
      cases lines rest <;> simp [ends]

theorem lines_unended {line : Bytes} (one : newline ∉ line) (filled : line ≠ []) :
    lines line = [line] := by
  have within := within_line one
  rw [lines_eq filled, List.takeWhile_eq_self_iff.mpr within, List.dropWhile_eq_nil_iff.mpr within]
  simp [lines]

structure Splits {α : Type} (take : Bytes → Read α) (comes : Bytes → Except FrameFault (Option α)) :
    Prop where
  short : ∀ {stream line more}, lines stream = line :: more → line.length ≤ maxSize →
    (take stream).result = comes (line.takeWhile (· != newline)) ∧ lines (take stream).rest = more
  long : ∀ {stream line more}, lines stream = line :: more → maxSize < line.length →
    (take stream).result = .error .tooLarge
  ended : (take []).result = .ok none

theorem takeRaw_splits : Splits takeRaw fun piece => .ok (some (stripReturns piece)) where
  short cut fits := by
    rw [takeRaw_line cut, if_neg (Nat.not_lt.mpr fits)]
    exact ⟨rfl, lines_rest cut⟩
  long cut long := by rw [takeRaw_line cut, if_pos long]
  ended := rfl

theorem takeText_splits : Splits takeText fun piece => (asText (stripReturns piece)).map some where
  short {stream line more} cut fits := by
    obtain ⟨result, rest⟩ := takeText_line cut
    have said : content line = asText (stripReturns (line.takeWhile (· != newline))) :=
      if_neg (Nat.not_lt.mpr fits)
    exact ⟨said ▸ result, rest (content_fits fits)⟩
  long {stream line more} cut long := by
    rw [(takeText_line cut).1, content, if_pos long]
    rfl
  ended := rfl

namespace Splits

variable {α : Type} {take : Bytes → Read α} {comes : Bytes → Except FrameFault (Option α)}
  (splits : Splits take comes) {stream : Bytes}

include splits

theorem reads_all (fits : ∀ line ∈ lines stream, line.length ≤ maxSize) :
    reads take ((pieces stream).length + 1) stream = (pieces stream).map comes ++ [.ok none] := by
  obtain ⟨rest, none, given⟩ := reads_append splits.short (List.append_nil _).symm fits
  obtain rfl : rest = [] := by
    rw [← lines_flatten rest, none]
    rfl
  have last := given 1
  rw [reads_one, splits.ended] at last
  rw [← lines_pieces, List.length_map, last, List.map_map]
  rfl

theorem reads_long {k : Nat} {line : Bytes} (there : (lines stream)[k]? = some line)
    (fits : ∀ other ∈ (lines stream).take k, other.length ≤ maxSize) (long : maxSize < line.length) :
    reads take (k + 1) stream = ((pieces stream).take k).map comes ++ [.error .tooLarge] := by
  obtain ⟨inside, here⟩ := List.getElem?_eq_some_iff.mp there
  have cut : lines stream = (lines stream).take k ++ line :: (lines stream).drop (k + 1) := by
    rw [← here, List.getElem_cons_drop, List.take_append_drop]
  obtain ⟨rest, left, given⟩ := reads_append splits.short cut fits
  have last := given 1
  rw [reads_one, splits.long left long, List.length_take_of_le (Nat.le_of_lt inside)] at last
  rw [last, ← lines_pieces, ← List.map_take, List.map_map]
  rfl

end Splits

theorem asText_error {raw : Bytes} {e : FrameFault} (failed : asText raw = .error e) :
    ∃ fault, e = .notText fault := by
  rw [asText] at failed
  cases decoded : Text.decodeUtf8 raw with
  | ok cs =>
    rw [decoded] at failed
    cases failed
  | error fault =>
    rw [decoded] at failed
    cases failed
    exact ⟨fault, rfl⟩

theorem asText_ok {raw : Bytes} {cs : List Char} :
    asText raw = .ok cs ↔ Text.encodeUtf8 (String.ofList cs) = raw := by
  rw [← Text.decodeUtf8_ok_iff, asText]
  cases Text.decodeUtf8 raw <;> simp [Except.mapError]

/-- Reading line by line splits a stream at its newlines. -/
theorem splitting_exact (stream : Bytes) :
    ((lines stream).flatten = stream ∧
        (lines stream).map (·.takeWhile (· != newline)) = pieces stream) ∧
      ((∀ line ∈ lines stream, line.length ≤ maxSize) →
        reads takeRaw ((pieces stream).length + 1) stream =
            ((pieces stream).map fun piece => .ok (some (stripReturns piece))) ++ [.ok none] ∧
          reads takeText ((pieces stream).length + 1) stream =
            ((pieces stream).map fun piece => (asText (stripReturns piece)).map some) ++ [.ok none]) ∧
      (∀ (k : Nat) (line : Bytes), (lines stream)[k]? = some line →
        (∀ other ∈ (lines stream).take k, other.length ≤ maxSize) → maxSize < line.length →
          reads takeRaw (k + 1) stream =
              (((pieces stream).take k).map fun piece => .ok (some (stripReturns piece))) ++
                [.error .tooLarge] ∧
            reads takeText (k + 1) stream =
              (((pieces stream).take k).map fun piece => (asText (stripReturns piece)).map some) ++
                [.error .tooLarge]) ∧
      (∀ raw cs, asText raw = .ok cs ↔ Text.encodeUtf8 (String.ofList cs) = raw) ∧
      ∀ raw e, asText raw = .error e → ∃ fault, e = .notText fault := by
  refine ⟨⟨lines_flatten stream, lines_pieces stream⟩, ?_, ?_, fun _ _ => asText_ok,
    fun _ _ => asText_error⟩
  · exact fun fits => ⟨takeRaw_splits.reads_all fits, takeText_splits.reads_all fits⟩
  · exact fun k line there fits long =>
      ⟨takeRaw_splits.reads_long there fits long, takeText_splits.reads_long there fits long⟩

theorem splitting_exact_ragged :
    let ragged : Bytes := [97, 13, 10, 10, 255, 13, 13]
    let long : Bytes := [97] ++ newline :: List.replicate (maxSize + 1) 98
    (∀ line ∈ lines ragged, line.length ≤ maxSize) ∧
      reads takeRaw 4 ragged = [.ok (some [97]), .ok (some []), .ok (some [255]), .ok none] ∧
      reads takeText 4 ragged =
        [.ok (some ['a']), .ok (some []), .error (.notText ⟨0, some 1⟩), .ok none] ∧
      reads takeRaw 2 long = [.ok (some [97]), .error .tooLarge] := by
  intro ragged long
  have fits : ∀ line ∈ lines ragged, line.length ≤ maxSize := by decide
  have split : pieces ragged = [[97, 13], [], [255, 13, 13]] := by decide
  obtain ⟨raw, text⟩ := (splitting_exact ragged).2.1 fits
  rw [split] at raw text
  have cut : lines long = [[97, newline], List.replicate (maxSize + 1) 98] := by
    rw [lines_append (by decide), lines_unended (by simp [newline]) (by simp [List.replicate_succ])]
    rfl
  have given := ((splitting_exact long).2.2.1 1 (List.replicate (maxSize + 1) 98) (by rw [cut]; rfl)
    (by rw [cut]; decide) (by simp)).1
  rw [← lines_pieces, cut] at given
  exact ⟨fits, raw, text, given⟩

end Signalgrid.Frame
