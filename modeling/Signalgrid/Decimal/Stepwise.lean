set_option autoImplicit false

namespace Signalgrid.Decimal

def maxPower : Nat := 308

def power (n : Nat) : Float := Float.ofScientific 1 false n

def scale : Nat → Float → Int → Option Float
  | 0, _, _ => some 0.0
  | fuel + 1, x, exponent =>
      if exponent.natAbs ≤ maxPower then
        if 0 ≤ exponent then
          let y := x * power exponent.natAbs
          if y.isInf then none else some y
        else some (x / power exponent.natAbs)
      else if x == 0.0 then some x
      else if 0 ≤ exponent then none
      -- Two full steps down take any 64-bit coefficient to zero.
      else scale fuel (x / power maxPower) (exponent + maxPower)

/-- The coefficient is rounded first, then scaled. -/
def stepwise (coefficient : Nat) (exponent : Int) : Option Float := scale 4 (Float.ofNat coefficient) exponent

end Signalgrid.Decimal
