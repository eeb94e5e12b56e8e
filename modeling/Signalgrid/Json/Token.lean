import Signalgrid.Json.Basic
import Signalgrid.Decimal.Stepwise

set_option autoImplicit false

namespace Signalgrid.Json

inductive Token where
  | opening (list : Bool)
  | closing (list : Bool)
  | comma
  | colon
  | scalar (j : Json)
  | text (s : String)
deriving Inhabited

inductive Scan where
  | between
  | word (done : List Char)
  | number (done : List Char)
  | inText (done : List Char)
  | escape (done : List Char)
  | unicode (done : List Char) (digits code : Nat)
  | afterHigh (done : List Char) (high : Nat)
  | afterHighSlash (done : List Char) (high : Nat)
  | lowUnicode (done : List Char) (high digits code : Nat)

def isSpace (c : Char) : Bool := c == ' ' || c == '\t' || c == '\n' || c == '\r'

def isNumberChar (c : Char) : Bool :=
  c.isDigit || c == '-' || c == '+' || c == '.' || c == 'e' || c == 'E'

def hexValue? (c : Char) : Option Nat :=
  if c.isDigit then some (c.toNat - 48)
  else if 'a' ≤ c ∧ c ≤ 'f' then some (c.toNat - 87)
  else if 'A' ≤ c ∧ c ≤ 'F' then some (c.toNat - 55)
  else none

def decimalValue (cs : List Char) : Nat := cs.foldl (fun n c => n * 10 + (c.toNat - 48)) 0

def absorb (n taken : Nat) : List Char → Nat × Nat
  | [] => (n, taken)
  | c :: rest =>
      let m := n * 10 + (c.toNat - 48)
      if m < 18446744073709551616 then absorb m (taken + 1) rest else (n, taken)

structure Numeral where
  minus : Bool
  whole : List Char
  -- None without a point.
  places : Option (List Char)
  -- None without an exponent.
  power : Option Int

def exponentOf : List Char → Option (Option Int)
  | [] => some none
  | c :: rest => do
      guard (c == 'e' || c == 'E')
      let (down, ds) := match rest with
        | '-' :: ds => (true, ds)
        | '+' :: ds => (false, ds)
        | ds => (false, ds)
      guard (!ds.isEmpty && ds.all Char.isDigit)
      let n := (decimalValue ds : Int)
      some (some (if down then -n else n))

def numeral (cs : List Char) : Option Numeral := do
  let (minus, cs) := match cs with
    | '-' :: rest => (true, rest)
    | _ => (false, cs)
  let (whole, cs) := cs.span Char.isDigit
  guard (!whole.isEmpty && (whole.length == 1 || whole.head? != some '0'))
  let (places, cs) := match cs with
    | '.' :: rest => (some (rest.takeWhile Char.isDigit), rest.dropWhile Char.isDigit)
    | _ => (none, cs)
  guard (places != some [])
  some ⟨minus, whole, places, ← exponentOf cs⟩

/-- Digits beyond 64 bits are dropped; those before the point still count for the size. -/
def Numeral.size (n : Numeral) : Option Float :=
  let (head, taken) := absorb 0 0 n.whole
  let (coefficient, placed) := absorb head 0 (n.places.getD [])
  let dropped : Int := n.whole.length - taken
  Decimal.stepwise coefficient (dropped - placed + n.power.getD 0)

/-- Integers within 64 bits stay integers, of either sign; all other numbers are binary64. -/
def ofNumeral (cs : List Char) : Option Json := do
  let n ← numeral cs
  let (value, taken) := absorb 0 0 n.whole
  let integral := n.places.isNone && n.power.isNone && taken == n.whole.length
  if integral && !n.minus then some (.int value)
  else if integral && 0 < value && value ≤ 9223372036854775808 then some (.int (-value))
  else
    let size ← n.size
    some (.float (if n.minus then -size else size))

def ofWord (cs : List Char) : Option Json :=
  if cs = ['n', 'u', 'l', 'l'] then some .null
  else if cs = ['t', 'r', 'u', 'e'] then some (.bool true)
  else if cs = ['f', 'a', 'l', 's', 'e'] then some (.bool false)
  else none

def unescape? (c : Char) : Option Char :=
  match c with
  | '"' | '\\' | '/' => some c
  | 'b' => some '\x08'
  | 'f' => some '\x0c'
  | 'n' => some '\n'
  | 'r' => some '\r'
  | 't' => some '\t'
  | _ => none

abbrev Scanned := Scan × List Token

def scanFresh (out : List Token) (c : Char) : Option Scanned :=
  if isSpace c then some (.between, out)
  else match c with
    | '[' => some (.between, .opening true :: out)
    | ']' => some (.between, .closing true :: out)
    | '{' => some (.between, .opening false :: out)
    | '}' => some (.between, .closing false :: out)
    | ',' => some (.between, .comma :: out)
    | ':' => some (.between, .colon :: out)
    | '"' => some (.inText [], out)
    | _ =>
      if c == '-' || c.isDigit then some (.number [c], out)
      else if c.isAlpha then some (.word [c], out)
      else none

def finishUnicode (done : List Char) (out : List Token) (code : Nat) : Option Scanned :=
  if 0xD800 ≤ code ∧ code ≤ 0xDBFF then some (.afterHigh done code, out)
  else if 0xDC00 ≤ code ∧ code ≤ 0xDFFF then none
  else some (.inText (Char.ofNat code :: done), out)

def finishPair (done : List Char) (out : List Token) (high low : Nat) : Option Scanned :=
  if 0xDC00 ≤ low ∧ low ≤ 0xDFFF then
    some (.inText (Char.ofNat (0x10000 + (high - 0xD800) * 0x400 + (low - 0xDC00)) :: done), out)
  else none

def scanChar : Scanned → Char → Option Scanned
  | (.between, out), c => scanFresh out c
  | (.word done, out), c =>
      if c.isAlpha then some (.word (c :: done), out)
      else do scanFresh (.scalar (← ofWord done.reverse) :: out) c
  | (.number done, out), c =>
      if isNumberChar c then some (.number (c :: done), out)
      else do scanFresh (.scalar (← ofNumeral done.reverse) :: out) c
  | (.inText done, out), c =>
      if c == '"' then some (.between, .text (String.ofList done.reverse) :: out)
      else if c == '\\' then some (.escape done, out)
      else if c.toNat < 0x20 then none
      else some (.inText (c :: done), out)
  | (.escape done, out), c =>
      if c == 'u' then some (.unicode done 0 0, out)
      else (unescape? c).map fun c => (.inText (c :: done), out)
  | (.unicode done digits code, out), c => do
      let code := code * 16 + (← hexValue? c)
      if digits = 3 then finishUnicode done out code else some (.unicode done (digits + 1) code, out)
  | (.afterHigh done high, out), c => if c == '\\' then some (.afterHighSlash done high, out) else none
  | (.afterHighSlash done high, out), c =>
      if c == 'u' then some (.lowUnicode done high 0 0, out) else none
  | (.lowUnicode done high digits code, out), c => do
      let code := code * 16 + (← hexValue? c)
      if digits = 3 then finishPair done out high code
      else some (.lowUnicode done high (digits + 1) code, out)

def finishScan : Scanned → Option (List Token)
  | (.between, out) => some out.reverse
  | (.word done, out) => do some ((.scalar (← ofWord done.reverse) :: out).reverse)
  | (.number done, out) => do some ((.scalar (← ofNumeral done.reverse) :: out).reverse)
  | _ => none

def scan (cs : List Char) : Option (List Token) :=
  (cs.foldlM scanChar (.between, [])).bind finishScan

end Signalgrid.Json
