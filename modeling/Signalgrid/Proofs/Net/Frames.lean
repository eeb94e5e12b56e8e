import Signalgrid.Net.Frame
import Signalgrid.Proofs.Json.Writer
import Signalgrid.Proofs.Text.Utf8

set_option autoImplicit false

namespace Signalgrid.Frame

def line (j : Json) : Bytes := Text.encodeUtf8 j.compact

theorem write_eq (j : Json) : write j = line j ++ [newline] := by
  have ending : Text.encodeUtf8 "\n" = [newline] := by
    rw [Text.encodeUtf8_eq]
    decide
  rw [← ending, write, line]
  simp [Text.encodeUtf8_eq]

theorem line_visible (j : Json) : ∀ b ∈ line j, 0x20 ≤ b.toNat :=
  Text.encodeUtf8_printable (Printable.compact j)

theorem stripReturns_line (j : Json) : stripReturns (line j) = line j := by
  have visible := line_visible j
  have kept : (line j).reverse.dropWhile (· == carriageReturn) = (line j).reverse := by
    cases reversed : (line j).reverse with
    | nil => rfl
    | cons b rest =>
      have last : 0x20 ≤ b.toNat := visible b (by rw [← List.mem_reverse, reversed]; exact .head _)
      have other : (b == carriageReturn) = false := by
        rw [beq_eq_false_iff_ne]
        rintro rfl
        exact absurd last (by decide)
      rw [List.dropWhile_cons, other]
      rfl
  rw [stripReturns, kept, List.reverse_reverse]

theorem newline_notMem_line (j : Json) : newline ∉ line j :=
  fun listed => absurd (line_visible j newline listed) (by decide)

section

variable {front : Bytes} (one : newline ∉ front)

include one

theorem within_line : ∀ b ∈ front, (b != newline) = true := by
  intro b listed
  rw [bne_iff_ne]
  rintro rfl
  exact one listed

theorem takeWhile_line (rest : Bytes) : (front ++ newline :: rest).takeWhile (· != newline) = front := by
  rw [List.takeWhile_append_of_pos (within_line one)]
  simp

theorem dropWhile_line (rest : Bytes) :
    (front ++ newline :: rest).dropWhile (· != newline) = newline :: rest := by
  rw [List.dropWhile_append_of_pos (within_line one)]
  simp

end

theorem takeRaw_write (j : Json) (rest : Bytes) :
    takeRaw (write j ++ rest) =
      if maxSize < (write j).length then ⟨.error .tooLarge, (write j ++ rest).drop (maxSize + 1)⟩
      else ⟨.ok (some (line j)), rest⟩ := by
  have one := newline_notMem_line j
  have split : write j ++ rest = line j ++ newline :: rest := by simp [write_eq]
  have size : (write j).length = (line j).length + 1 := by simp [write_eq]
  have filled : write j ++ rest ≠ [] := by simp [write_eq]
  have body : (write j ++ rest).takeWhile (· != newline) = line j := by rw [split, takeWhile_line one]
  have after : (write j ++ rest).dropWhile (· != newline) = newline :: rest := by
    rw [split, dropWhile_line one]
  unfold takeRaw
  split
  next empty => exact absurd empty filled
  next =>
    simp only [body, after, size, List.isEmpty_cons, Bool.false_eq_true, if_false, stripReturns_line,
      List.drop_succ_cons, List.drop_zero]

theorem takeText_write (j : Json) :
    takeText (write j) =
      if maxSize < (write j).length then ⟨.error .tooLarge, (write j).drop (maxSize + 1)⟩
      else ⟨.ok (some j.compact.toList), []⟩ := by
  have taken := takeRaw_write j []
  have text : asText (line j) = .ok j.compact.toList := by
    rw [asText, line, Text.decodeUtf8_encodeUtf8]
    rfl
  rw [List.append_nil] at taken
  unfold takeText
  rw [taken]
  split_ifs with long
  · rfl
  · simp only [text, Except.map]

end Signalgrid.Frame
