import Signalgrid.Toml.Quoted
import Signalgrid.Decimal.Shortest

set_option autoImplicit false

namespace Signalgrid.Toml

def decimalValue (cs : List Char) : Nat := cs.foldl (fun n c => 10 * n + (c.toNat - 48)) 0

def isGrouped (digit : Char → Bool) (c : Char) : Bool := digit c || c == '_'

def groupsOk : List Char → Bool
  | '_' :: _ => false
  | [_, '_'] => false
  | _ :: '_' :: rest => groupsOk rest
  | _ :: rest => groupsOk rest
  | [] => true

namespace Step

def grouped (digit : Char → Bool) : Step (List Char) := do
  let cs ← run1 (isGrouped digit)
  if groupsOk cs then pure (cs.filter (· != '_')) else failure

def whole : Step (List Char) := do
  match ← peek with
  | some '0' =>
      skip '0'
      pure ['0']
  | _ => grouped isDigit

def sign : Step Bool := do
  match ← peek with
  | some '-' =>
      skip '-'
      pure true
  | some '+' =>
      skip '+'
      pure false
  | _ => pure false

def fraction : Step (List Char) := do
  skip '.'
  grouped isDigit

def exponent : Step Int := do
  let _ ← char fun c => c == 'e' || c == 'E'
  let negative ← sign
  let ds ← grouped isDigit
  let n : Int := decimalValue ds
  pure (if negative then -n else n)

def signed (negative : Bool) (x : Float) : Float := if negative then -x else x

def floatOf (negative : Bool) (x : Float) : Step Json :=
  if x.isInf && !negative then failure else pure (.float (signed negative x))

def integerOf (n : Int) : Step Json :=
  if -9223372036854775808 ≤ n ∧ n < 9223372036854775808 then pure (.int n) else failure

def decimalFrom (negative : Bool) : Step Json := do
  let ds ← whole
  let places ← optional fraction
  let power ← optional exponent
  if places.isNone && power.isNone then
    let n : Int := decimalValue ds
    integerOf (if negative then -n else n)
  else
    let after := places.getD []
    floatOf negative
      (Decimal.toFloat ⟨decimalValue (ds ++ after), power.getD 0 - after.length⟩)

def special (negative : Bool) : Step Json :=
  (do word ['i', 'n', 'f']; pure (.float (signed negative (1.0 / 0.0)))) <|>
    (do word ['n', 'a', 'n']; pure (.float (signed negative (0.0 / 0.0))))

def decimal : Step Json := do
  let negative ← sign
  decimalFrom negative <|> special negative

def isDigitOf (base : Nat) (c : Char) : Bool := (hexValue? c).any (· < base)

def radix (mark : Char) (base : Nat) : Step Json := do
  word ['0', mark]
  let ds ← grouped (isDigitOf base)
  integerOf (ds.foldl (fun n c => n * base + (hexValue? c).getD 0) 0 : Nat)

def boolean : Step Json :=
  (do word ['t', 'r', 'u', 'e']; pure (.bool true)) <|>
    (do word ['f', 'a', 'l', 's', 'e']; pure (.bool false))

def ranged (width low high : Nat) : Step Nat := do
  let n := decimalValue (← exactly isDigit width)
  if low ≤ n ∧ n ≤ high then pure n else failure

def lastDay (year month : Nat) : Nat :=
  if month = 2 then
    if year % 4 = 0 ∧ (year % 100 ≠ 0 ∨ year % 400 = 0) then 29 else 28
  else if month ∈ [4, 6, 9, 11] then 30
  else 31

def fullDate : Step Unit := do
  let year ← ranged 4 0 9999
  skip '-'
  let month ← ranged 2 1 12
  skip '-'
  let _ ← ranged 2 1 (lastDay year month)

def timeOfDay : Step Unit := do
  let _ ← ranged 2 0 23
  skip ':'
  let _ ← ranged 2 0 59
  skip ':'
  let _ ← ranged 2 0 60
  let _ ← optional (do skip '.'; run1 isDigit)

def timeOffset : Step Unit :=
  (do let _ ← char fun c => c == 'Z' || c == 'z') <|>
    (do
      let _ ← char fun c => c == '+' || c == '-'
      let _ ← ranged 2 0 23
      skip ':'
      let _ ← ranged 2 0 59)

def timeAfterDate : Step Unit := do
  let _ ← char fun c => c == 'T' || c == 't' || c == ' '
  timeOfDay
  let _ ← optional timeOffset

def dateTime : Step Unit :=
  (do
    fullDate
    let _ ← optional timeAfterDate) <|> timeOfDay

/-- No setting is a date; one is kept as a table of its own so that it fits nothing else. -/
def moment : Step Json := do
  dateTime
  pure (.obj [("datetime", .null)])

def scalar : Step Json :=
  (Json.str <$> text) <|> boolean <|> moment <|> radix 'x' 16 <|> radix 'o' 8 <|> radix 'b' 2 <|> decimal

end Step

end Signalgrid.Toml
