import Signalgrid.Time.Instant
import Signalgrid.Text.Blank

set_option autoImplicit false

namespace Signalgrid

inductive TimeFault where
  | tooShort
  | invalid
  | outOfRange
  | tooLong
  -- A sound local date and time whose moment lies outside the calendar.
  | noSuchMoment
deriving Repr, DecidableEq

def TimeFault.message : TimeFault → String
  | .tooShort => "premature end of input"
  | .invalid => "input contains invalid characters"
  | .outOfRange => "input is out of range"
  | .tooLong => "trailing input"
  | .noSuchMoment => "no possible date and time matching input"

namespace TimeText

abbrev Parse := StateT (List Char) (Except TimeFault)

def octets (cs : List Char) : Nat := cs.foldl (fun n c => n + c.utf8Size) 0

def digit? (c : Char) : Option Nat := if c.isDigit then some (c.toNat - 48) else none

def value (ds : List Char) : Nat := ds.foldl (fun n c => n * 10 + (c.toNat - 48)) 0

structure Fields where
  year : Int
  month : Nat
  day : Nat
  hour : Nat
  minute : Nat
  second : Nat
  nanos : Nat
  offsetMinutes : Int

/-- Second 60 is the leap second after second 59. -/
def Fields.instant (f : Fields) : Except TimeFault Instant :=
  let date : Date := ⟨f.year, f.month, f.day⟩
  if ¬ date.Valid ∨ 23 < f.hour ∨ 59 < f.minute ∨ 60 < f.second ∨ 1440 ≤ f.offsetMinutes.natAbs then
    .error .outOfRange
  else
    let leap := f.second = 60
    let second : Nat := if leap then 59 else f.second
    let seconds := date.toDays * 86400 + f.hour * 3600 + f.minute * 60 + second - f.offsetMinutes * 60
    match Instant.ofParts? seconds (if leap then f.nanos + 1000000000 else f.nanos) with
    | some t => .ok t
    | none => .error .noSuchMoment

def fraction : Parse Nat := do
  match ← get with
  | '.' :: rest =>
      match rest with
      | [] => throw .tooShort
      | c :: _ =>
        if !c.isDigit then throw .invalid
        let ds := (rest.takeWhile Char.isDigit).take 9
        set (rest.dropWhile Char.isDigit)
        return value ds * Nat.pow 10 (9 - ds.length)
  | _ => return 0

def twoDigits : Parse Nat := do
  let cs ← get
  if octets cs < 2 then throw .tooShort
  match cs with
  | a :: b :: rest =>
      match digit? a, digit? b with
      | some a, some b => do
          set rest
          return 10 * a + b
      | _, _ => throw .invalid
  | _ => throw .invalid

def sign : Parse Int := do
  match ← get with
  | [] => throw .tooShort
  | c :: rest =>
      set rest
      if c = '+' then return 1
      else if c = '-' ∨ c = '\u2212' then return -1
      else throw .invalid

def offset (between : Parse Unit) : Parse Int := do
  match ← get with
  | 'Z' :: rest => do
      set rest
      return 0
  | 'z' :: rest => do
      set rest
      return 0
  | _ =>
      let s ← sign
      let hours ← twoDigits
      between
      let minutes ← twoDigits
      if 60 ≤ minutes then throw .outOfRange
      return s * (60 * hours + minutes)

end TimeText

-- The sensors' form, each field at its place.
namespace StrictTime

open TimeText

def oneOf (allowed : List Char) : Parse Unit := do
  match ← get with
  | c :: rest => if c ∈ allowed then set rest else throw .invalid
  | [] => throw .invalid

def digits : Nat → Nat → Parse Nat
  | 0, n => return n
  | k + 1, n => do
      match ← get with
      | c :: rest =>
          match digit? c with
          | some d => do
              set rest
              digits k (10 * n + d)
          | none => throw .invalid
      | [] => throw .invalid

def colon : Parse Unit := do
  match ← get with
  | [] => throw .tooShort
  | c :: rest => if c = ':' then set rest else throw .invalid

def instant : Parse Instant := do
  if octets (← get) < 19 then throw .tooShort
  let year ← digits 4 0
  oneOf ['-']
  let month ← digits 2 0
  oneOf ['-']
  let day ← digits 2 0
  if ¬ Date.Valid ⟨year, month, day⟩ then throw .outOfRange
  oneOf ['T', 't', ' ']
  let hour ← digits 2 0
  oneOf [':']
  let minute ← digits 2 0
  oneOf [':']
  let second ← digits 2 0
  let nanos ← fraction
  if 23 < hour ∨ 59 < minute ∨ 60 < second then throw .outOfRange
  let offset ← offset colon
  if !(← get).isEmpty then throw .tooLong
  Fields.instant ⟨year, month, day, hour, minute, second, nanos, offset⟩

end StrictTime

-- The form of requests and records: blanks between fields and short fields are allowed.
namespace RelaxedTime

open TimeText

def skipBlanks : Parse Unit := modify Text.trimStart

def number (width : Option Nat) : Parse Nat := do
  match ← get with
  | [] => throw .tooShort
  | c :: rest =>
      if !c.isDigit then throw .invalid
      let run := (c :: rest).takeWhile Char.isDigit
      let ds := match width with
        | some w => run.take w
        | none => run
      set ((c :: rest).drop ds.length)
      if 9223372036854775808 ≤ value ds then throw .outOfRange
      return value ds

def field (low high : Nat) : Parse Nat := do
  skipBlanks
  let n ← number (some 2)
  if n < low ∨ high < n then throw .outOfRange
  return n

def year : Parse Int := do
  skipBlanks
  let y ← match ← get with
    | '-' :: rest => do
        set rest
        let n ← number none
        pure (-(n : Int))
    | '+' :: rest => do
        set rest
        let n ← number none
        pure (n : Int)
    | _ => do
        let n ← number (some 4)
        pure (n : Int)
  if y < -2147483648 ∨ 2147483648 ≤ y then throw .outOfRange
  return y

def literal (c : Char) : Parse Unit := do
  skipBlanks
  match ← get with
  | [] => throw .tooShort
  | d :: rest => if d = c then set rest else throw .invalid

def separator : Parse Unit := do
  match ← get with
  | [] => throw .tooShort
  | c :: rest => if c = 'T' ∨ c = 't' ∨ c = ' ' then set rest else throw .invalid

def colons : Parse Unit := modify (List.dropWhile fun c => c == ':' || Text.isBlank c)

def isUtc (cs : List Char) : Bool := (cs.take 3).map Char.toUpper == ['U', 'T', 'C']

def zone : Parse Int := do
  if isUtc (← get) then
    modify (List.drop 3)
    return 0
  else offset colons

def instant : Parse Instant := do
  let year ← year
  literal '-'
  let month ← field 1 12
  literal '-'
  let day ← field 1 31
  separator
  let hour ← field 0 23
  literal ':'
  let minute ← field 0 59
  literal ':'
  let second ← field 0 60
  let nanos ← fraction
  skipBlanks
  let offset ← zone
  skipBlanks
  if !(← get).isEmpty then throw .tooLong
  Fields.instant ⟨year, month, day, hour, minute, second, nanos, offset⟩

end RelaxedTime

namespace Instant

def ofStrict (s : String) : Except TimeFault Instant := StrictTime.instant.run' s.toList
def ofRelaxed (s : String) : Except TimeFault Instant := RelaxedTime.instant.run' s.toList

end Instant

end Signalgrid
