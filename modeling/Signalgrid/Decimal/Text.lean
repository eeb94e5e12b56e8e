import Signalgrid.Decimal.Shortest

set_option autoImplicit false

namespace Signalgrid.Decimal

def digits (n : Nat) : List Char := Nat.toDigits 10 n

def zeros (n : Nat) : List Char := List.replicate n '0'

def positional (d : Decimal) : List Char :=
  let ds := digits d.coefficient
  if 0 ≤ d.exponent then ds ++ zeros d.exponent.toNat
  else
    let places := (-d.exponent).toNat
    if ds.length ≤ places then '0' :: '.' :: zeros (places - ds.length) ++ ds
    else ds.take (ds.length - places) ++ '.' :: ds.drop (ds.length - places)

def scientific (d : Decimal) : List Char :=
  let e := d.leading
  let mantissa :=
    match digits d.coefficient with
    | [] => []
    | [c] => [c]
    | c :: rest => c :: '.' :: rest
  mantissa ++ 'e' :: (if 0 ≤ e then '+' else '-') :: digits e.natAbs

def negative (x : Float) : Bool := 9223372036854775808 ≤ x.toBits.toNat

def wire (x : Float) : String :=
  let d := ofFloat x
  let body :=
    if d.coefficient = 0 then ['0', '.', '0']
    else if -5 ≤ d.leading ∧ d.leading ≤ 15 then
      if 0 ≤ d.exponent then positional d ++ ['.', '0'] else positional d
    else scientific d
  String.ofList (if negative x then '-' :: body else body)

def prose (x : Float) : String :=
  if x.isNaN then "NaN"
  else
    let body := if x.isInf then ['i', 'n', 'f'] else positional (ofFloat x)
    String.ofList (if negative x then '-' :: body else body)

end Signalgrid.Decimal
