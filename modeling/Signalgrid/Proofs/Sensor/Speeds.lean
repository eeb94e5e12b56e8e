import Mathlib.Data.Int.Order.Basic
import Mathlib.Data.Option.NAry
import Mathlib.Data.Prod.Lex

set_option autoImplicit false

namespace Signalgrid.Speed

open Float.Model (UnpackedFloat)

/-- By sign, then exponent, then digits. What is no number stands nowhere. -/
def rank : UnpackedFloat → Option (Int ×ₗ Int ×ₗ Int)
  | .notANumber => none
  | .infinity .negative => some (toLex (-2, toLex (0, 0)))
  | .finite .negative m e _ => some (toLex (-1, toLex (-e, -m)))
  | .zero _ => some (toLex (0, toLex (0, 0)))
  | .finite .positive m e _ => some (toLex (1, toLex (e, m)))
  | .infinity .positive => some (toLex (2, toLex (0, 0)))

theorem compare_cast (m n : Nat) : compare (m : Int) n = compare m n := by
  simp [Int.compare_eq_ite_lt, Nat.compare_eq_ite_lt]

theorem compare_neg (a b : Int) : compare (-a) (-b) = (compare a b).swap := by
  rw [Int.compare_swap]
  simp [Int.compare_eq_ite_lt]

theorem compare_signed (sign e e' m m' : Int) :
    compare (toLex (sign, toLex (e, m))) (toLex (sign, toLex (e', m'))) =
      (compare e e').then (compare m m') := by
  simp [Prod.Lex.compare_def, compareLex, compareOn]

theorem compare_rank (a b : UnpackedFloat) : a.compare b = Option.map₂ compare (rank a) (rank b) := by
  rcases a with (_ | _) | _ | _ | ⟨_ | _, m, e, _⟩ <;> rcases b with (_ | _) | _ | _ | ⟨_ | _, m', e', _⟩
  case finite.negative.finite.negative =>
    change some ((compare e e').then (compare m m')).swap =
      some (compare (toLex (-1, toLex (-e, -(m : Int)))) (toLex (-1, toLex (-e', -(m' : Int)))))
    rw [compare_signed, compare_neg, compare_neg, compare_cast, Ordering.swap_then]
  case finite.positive.finite.positive =>
    change some ((compare e e').then (compare m m')) =
      some (compare (toLex (1, toLex (e, (m : Int)))) (toLex (1, toLex (e', (m' : Int)))))
    rw [compare_signed, compare_cast]
  -- Anywhere else the signs decide, or there is nothing to compare.
  all_goals rfl

def place (x : Float) : Option (Int ×ₗ Int ×ₗ Int) := rank x.toModel.unpack

theorem isNaN_iff (x : Float) : x.isNaN = true ↔ place x = none := by
  change x.toModel.unpack.isNaN = true ↔ rank x.toModel.unpack = none
  rcases x.toModel.unpack with (_ | _) | _ | _ | ⟨_ | _, m, e, _⟩
  case notANumber => exact iff_of_true rfl rfl
  all_goals exact iff_of_false nofun nofun

theorem lt_iff (x y : Float) : x < y ↔ ∃ p ∈ place x, ∃ q ∈ place y, p < q := by
  have unpacked : x < y ↔ x.toModel.unpack.lt y.toModel.unpack = true := decide_eq_true_iff
  rw [unpacked, UnpackedFloat.lt, beq_iff_eq, compare_rank, place, place]
  cases rank x.toModel.unpack <;> cases rank y.toModel.unpack <;> simp [compare_lt_iff_lt]

theorem le_iff (x y : Float) : x ≤ y ↔ ∃ p ∈ place x, ∃ q ∈ place y, p ≤ q := by
  have unpacked : x ≤ y ↔ x.toModel.unpack.le y.toModel.unpack = true := decide_eq_true_iff
  rw [unpacked, UnpackedFloat.le, compare_rank, place, place]
  cases rank x.toModel.unpack <;> cases rank y.toModel.unpack <;>
    simp [Ordering.isLE_iff_ne_gt, compare_le_iff_le]

theorem le_of_lt {x y : Float} (order : x < y) : x ≤ y := by
  obtain ⟨p, atX, q, atY, below⟩ := (lt_iff x y).mp order
  exact (le_iff x y).mpr ⟨p, atX, q, atY, below.le⟩

theorem lt_of_lt_of_le {x y z : Float} (first : x < y) (second : y ≤ z) : x < z := by
  obtain ⟨p, atX, q, atY, below⟩ := (lt_iff x y).mp first
  obtain ⟨q', atY', r, atZ, within⟩ := (le_iff y z).mp second
  obtain rfl := Option.mem_unique atY atY'
  exact (lt_iff x z).mpr ⟨p, atX, r, atZ, below.trans_le within⟩

theorem numbers_of_le {x y : Float} (order : x ≤ y) : x.isNaN = false ∧ y.isNaN = false := by
  obtain ⟨p, atX, q, atY, _⟩ := (le_iff x y).mp order
  constructor
  · rw [Bool.eq_false_iff, ne_eq, isNaN_iff, Option.mem_def.mp atX]
    nofun
  · rw [Bool.eq_false_iff, ne_eq, isNaN_iff, Option.mem_def.mp atY]
    nofun

theorem not_lt_iff (x y : Float) : ¬ x < y ↔ y ≤ x ∨ x.isNaN = true ∨ y.isNaN = true := by
  rw [lt_iff, le_iff, isNaN_iff, isNaN_iff]
  cases place x <;> cases place y <;> simp

end Signalgrid.Speed
