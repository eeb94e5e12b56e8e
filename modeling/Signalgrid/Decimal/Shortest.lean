set_option autoImplicit false

namespace Signalgrid

structure Decimal where
  coefficient : Nat
  exponent : Int
deriving Repr, DecidableEq

namespace Decimal

/-- The number significand · 2^exponent, and how far to both sides the reals that round to it reach, in
quarters of a unit. -/
structure Rounding where
  significand : Nat
  exponent : Int
  below : Nat
  closed : Bool
deriving Repr

def Rounding.ofBits (bits : UInt64) : Rounding :=
  let fraction : Nat := bits.toNat % 4503599627370496
  let field : Nat := bits.toNat / 4503599627370496 % 2048
  if field = 0 then ⟨fraction, -1074, 2, fraction % 2 == 0⟩
  else
    ⟨4503599627370496 + fraction, (field : Int) - 1075,
      if fraction = 0 ∧ 1 < field then 1 else 2, fraction % 2 == 0⟩

def Rounding.num (r : Rounding) (quarters : Nat) : Nat := quarters * Nat.pow 2 (r.exponent - 2).toNat
def Rounding.den (r : Rounding) : Nat := Nat.pow 2 (2 - r.exponent).toNat

def digitCount (n : Nat) : Nat := (Nat.toDigits 10 n).length

def magnitude (num den : Nat) : Int :=
  if den ≤ num then (digitCount (num / den) : Int) - 1
  else -(digitCount ((den + num - 1) / num - 1) : Int)

def scaled (candidate : Nat) (exponent : Int) (den : Nat) : Nat :=
  candidate * Nat.pow 10 exponent.toNat * den

def Rounding.holds (r : Rounding) (candidate : Nat) (exponent : Int) : Bool :=
  let at10 := Nat.pow 10 (-exponent).toNat
  let mid := 4 * r.significand
  let x := scaled candidate exponent r.den
  let low := r.num (mid - r.below) * at10
  let high := r.num (mid + 2) * at10
  if r.closed then low ≤ x && x ≤ high else low < x && x < high

def Rounding.onGrid? (r : Rounding) (exponent : Int) : Option Nat :=
  let num := r.num (4 * r.significand) * Nat.pow 10 (-exponent).toNat
  let den := r.den * Nat.pow 10 exponent.toNat
  let low := num / den
  let lowGap := num - low * den
  let highGap := (low + 1) * den - num
  match r.holds low exponent, r.holds (low + 1) exponent with
  | true, true => some (if lowGap < highGap || (lowGap == highGap && low % 2 == 0) then low else low + 1)
  | true, false => some low
  | false, true => some (low + 1)
  | false, false => none

def Rounding.search (r : Rounding) (top : Int) : List Nat → Option Decimal
  | [] => none
  | n :: rest =>
      let exponent := top - n
      match r.onGrid? exponent with
      | some c => some ⟨c, exponent⟩
      | none => r.search top rest

def Rounding.shortest (r : Rounding) : Decimal :=
  let top := magnitude (r.num (4 * r.significand)) r.den
  (r.search top (List.range 18)).getD ⟨r.significand, r.exponent⟩

def dropZeros (fuel : Nat) (d : Decimal) : Decimal :=
  match fuel with
  | 0 => d
  | fuel + 1 =>
      if d.coefficient ≠ 0 ∧ d.coefficient % 10 = 0 then
        dropZeros fuel ⟨d.coefficient / 10, d.exponent + 1⟩
      else d

def ofFloat (x : Float) : Decimal :=
  let r := Rounding.ofBits x.toBits
  if r.significand = 0 then ⟨0, 0⟩ else dropZeros 20 r.shortest

def leading (d : Decimal) : Int := d.exponent + digitCount d.coefficient - 1

def toFloat (d : Decimal) : Float :=
  if d.coefficient = 0 then 0.0
  else if d.leading < -400 then 0.0
  else if 400 < d.leading then 1.0 / 0.0
  else if d.exponent < 0 then Float.ofScientific d.coefficient true d.exponent.natAbs
  else Float.ofScientific d.coefficient false d.exponent.toNat

end Decimal

end Signalgrid
