import Signalgrid.Json.Writer
import Mathlib.Tactic.SplitIfs

set_option autoImplicit false

namespace Signalgrid

def Printable (cs : List Char) : Prop := ∀ c ∈ cs, 0x20 ≤ c.toNat

namespace Printable

@[simp] theorem nil : Printable [] := by simp [Printable]

@[simp] theorem cons (c : Char) (cs : List Char) : Printable (c :: cs) ↔ 0x20 ≤ c.toNat ∧ Printable cs := by
  simp [Printable]

@[simp] theorem append (cs ds : List Char) : Printable (cs ++ ds) ↔ Printable cs ∧ Printable ds := by
  simp [Printable, or_imp, forall_and]

theorem of_isDigit {cs : List Char} (all : ∀ c ∈ cs, c.isDigit = true) : Printable cs := by
  intro c listed
  have digit := all c listed
  simp only [Char.isDigit, Bool.and_eq_true, decide_eq_true_eq, ge_iff_le, UInt32.le_iff_toNat_le] at digit
  have low : 48 ≤ c.toNat := digit.1
  omega

theorem digits (n : Nat) : Printable (Nat.toDigits 10 n) :=
  of_isDigit fun _ => Nat.isDigit_of_mem_toDigits (by decide) (by decide)

theorem hexDigit {n : Nat} (small : n < 16) : 0x20 ≤ (Json.hexDigit n).toNat := by
  have all : ∀ k : Fin 16, 0x20 ≤ (Json.hexDigit k).toNat := by decide
  exact all ⟨n, small⟩

theorem escapeChar (c : Char) : Printable (Json.escapeChar c) := by
  unfold Json.escapeChar
  split
  case h_8 =>
    split
    next control =>
      have high := hexDigit (n := c.toNat / 16) (by omega)
      have low := hexDigit (n := c.toNat % 16) (by omega)
      simp [high, low]
    next visible => simpa using visible
  all_goals simp

theorem quoted (s : String) : Printable (Json.quoted s).toList := by
  have escaped : Printable (s.toList.flatMap Json.escapeChar) := by
    intro c listed
    obtain ⟨d, _, among⟩ := List.mem_flatMap.mp listed
    exact escapeChar d c among
  simp [Json.quoted, escaped]

theorem positional (d : Decimal) : Printable d.positional := by
  have zeros : ∀ n, Printable (Decimal.zeros n) := fun n c listed => by
    rw [List.eq_of_mem_replicate listed]
    decide
  have all : Printable (Decimal.digits d.coefficient) := digits _
  have front : ∀ n, Printable ((Decimal.digits d.coefficient).take n) := fun n c listed =>
    all c (List.mem_of_mem_take listed)
  have back : ∀ n, Printable ((Decimal.digits d.coefficient).drop n) := fun n c listed =>
    all c (List.mem_of_mem_drop listed)
  unfold Decimal.positional
  simp only
  split_ifs <;> simp [all, zeros, front, back]

theorem scientific (d : Decimal) : Printable d.scientific := by
  have all : Printable (Decimal.digits d.coefficient) := digits _
  have power : Printable (Decimal.digits d.leading.natAbs) := digits _
  unfold Decimal.scientific
  simp only
  split
  next => split_ifs <;> simp [power]
  next c one =>
    rw [one] at all
    split_ifs <;> simpa [power] using all
  next c rest _ more =>
    rw [more] at all
    split_ifs <;> simpa [power] using all

theorem wire (x : Float) : Printable (Decimal.wire x).toList := by
  unfold Decimal.wire
  simp only [String.toList_ofList]
  split_ifs <;> simp [positional, scientific]

theorem int (n : Int) : Printable (toString n).toList := by
  have nat : ∀ k : Nat, Printable (toString k).toList := fun k => by simpa using digits k
  cases n with
  | ofNat k => exact nat k
  | negSucc k =>
    have minus : toString (Int.negSucc k) = "-" ++ toString (k + 1) := rfl
    rw [minus]
    simpa using nat (k + 1)

theorem scalarText (j : Json) : Printable j.scalarText.toList := by
  unfold Json.scalarText
  split
  case h_3 => exact int _
  case h_4 => exact wire _
  case h_5 => exact quoted _
  all_goals simp

mutual

theorem writeTo {out : String} (before : Printable out.toList) :
    ∀ j : Json, Printable (Json.writeTo out j).toList
  | .arr items => by
      have all := @writeItems (out ++ "[") (by simpa using before) true items
      simpa [Json.writeTo] using all
  | .obj members => by
      have all := @writeMembers (out ++ "\x7b") (by simpa using before) true members
      simpa [Json.writeTo] using all
  | .null | .bool _ | .int _ | .float _ | .str _ => by
      simp only [Json.writeTo, String.toList_append, append]
      exact ⟨before, scalarText _⟩

theorem writeItems {out : String} (before : Printable out.toList) (first : Bool) :
    ∀ items : List Json, Printable (Json.writeItems out first items).toList
  | [] => before
  | j :: rest => by
      have opened : Printable (if first then out else out ++ ",").toList := by
        split
        · exact before
        · simpa using before
      exact writeItems (writeTo opened j) false rest

theorem writeMembers {out : String} (before : Printable out.toList) (first : Bool) :
    ∀ members : List Json.Member, Printable (Json.writeMembers out first members).toList
  | [] => before
  | (k, j) :: rest => by
      have opened :
          Printable ((if first then out else out ++ ",") ++ Json.quoted k ++ ":").toList := by
        split
        · simpa [quoted k] using before
        · simpa [quoted k] using before
      exact writeMembers (writeTo opened j) false rest

end

theorem compact (j : Json) : Printable j.compact.toList := writeTo (by simp) j

end Printable

namespace Json

mutual

theorem writeTo_eq (out : String) : ∀ j : Json, writeTo out j = out ++ writeTo "" j
  | .arr items => by
      simp only [writeTo, String.empty_append]
      rw [writeItems_eq (out ++ "[") true items, writeItems_eq "[" true items]
      simp only [String.append_assoc]
  | .obj members => by
      simp only [writeTo, String.empty_append]
      rw [writeMembers_eq (out ++ "\x7b") true members, writeMembers_eq "\x7b" true members]
      simp only [String.append_assoc]
  | .null | .bool _ | .int _ | .float _ | .str _ => by
      simp only [writeTo, String.empty_append]

theorem writeItems_eq (out : String) (first : Bool) :
    ∀ items : List Json, writeItems out first items = out ++ writeItems "" first items
  | [] => by simp [writeItems]
  | j :: rest => by
      simp only [writeItems]
      rw [writeItems_eq _ false rest, writeItems_eq (writeTo _ j) false rest, writeTo_eq _ j,
        writeTo_eq (if first = true then "" else _) j]
      cases first <;> simp [String.append_assoc]

theorem writeMembers_eq (out : String) (first : Bool) :
    ∀ members : List Member, writeMembers out first members = out ++ writeMembers "" first members
  | [] => by simp [writeMembers]
  | (k, j) :: rest => by
      simp only [writeMembers]
      rw [writeMembers_eq _ false rest, writeMembers_eq (writeTo _ j) false rest, writeTo_eq _ j,
        writeTo_eq ((if first = true then "" else _) ++ _ ++ _) j]
      cases first <;> simp [String.append_assoc]

end

theorem compact_str (s : String) : s.toList.length ≤ (str s).compact.toList.length := by
  have escaped : ∀ cs : List Char, cs.length ≤ (cs.flatMap escapeChar).length := by
    intro cs
    induction cs with
    | nil => exact Nat.le_refl 0
    | cons c rest ih =>
      have some : 0 < (escapeChar c).length := by
        unfold escapeChar
        split
        case h_8 => split <;> simp
        all_goals simp
      rw [List.flatMap_cons, List.length_append, List.length_cons]
      omega
  have bound := escaped s.toList
  simp only [compact, writeTo, scalarText, quoted, String.toList_append, String.toList_ofList,
    List.length_append]
  omega

theorem compact_item {items : List Json} {j : Json} (listed : j ∈ items) :
    j.compact.toList.length ≤ (arr items).compact.toList.length := by
  have each : ∀ first, j.compact.toList.length ≤ (writeItems "" first items).toList.length := by
    induction items with
    | nil => cases listed
    | cons item rest ih =>
      intro first
      rw [writeItems, writeItems_eq, writeTo_eq]
      simp only [String.toList_append, List.length_append]
      rcases List.mem_cons.mp listed with rfl | later
      · exact Nat.le_trans (Nat.le_add_left _ _) (Nat.le_add_right _ _)
      · exact Nat.le_trans (ih later false) (Nat.le_add_left _ _)
  have whole : (arr items).compact = "[" ++ writeItems "" true items ++ "]" := by
    rw [compact, writeTo, writeItems_eq, String.empty_append]
  simp only [whole, String.toList_append, List.length_append]
  exact Nat.le_trans (Nat.le_trans (each true) (Nat.le_add_left _ _)) (Nat.le_add_right _ _)

theorem compact_member {members : List Member} {key : String} {j : Json} (listed : (key, j) ∈ members) :
    j.compact.toList.length ≤ (obj members).compact.toList.length := by
  have each : ∀ first, j.compact.toList.length ≤ (writeMembers "" first members).toList.length := by
    induction members with
    | nil => cases listed
    | cons member rest ih =>
      intro first
      rw [writeMembers, writeMembers_eq, writeTo_eq]
      simp only [String.toList_append, List.length_append]
      rcases List.mem_cons.mp listed with rfl | later
      · exact Nat.le_trans (Nat.le_add_left _ _) (Nat.le_add_right _ _)
      · exact Nat.le_trans (ih later false) (Nat.le_add_left _ _)
  have whole : (obj members).compact = "\x7b" ++ writeMembers "" true members ++ "\x7d" := by
    rw [compact, writeTo, writeMembers_eq, String.empty_append]
  simp only [whole, String.toList_append, List.length_append]
  exact Nat.le_trans (Nat.le_trans (each true) (Nat.le_add_left _ _)) (Nat.le_add_right _ _)

end Json

end Signalgrid
