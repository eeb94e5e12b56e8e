import Signalgrid.Time.Span
import Signalgrid.Time.Date

set_option autoImplicit false

namespace Signalgrid

/-- A leap second ends a minute; its nanoseconds go on counting past a whole second. -/
structure Instant where
  -- Since 1970-01-01 00:00:00, leap seconds not counted.
  seconds : Int
  nanos : Nat
  first_le : -8334601228800 ≤ seconds
  le_last : seconds ≤ 8210266876799
  nanos_lt : nanos < 2000000000
  leap_ends : 1000000000 ≤ nanos → seconds % 60 = 59
deriving DecidableEq

namespace Instant

def firstSecond : Int := -8334601228800
def lastSecond : Int := 8210266876799

def ofParts? (seconds : Int) (nanos : Nat) : Option Instant :=
  if h : (-8334601228800 ≤ seconds ∧ seconds ≤ 8210266876799) ∧ nanos < 2000000000 ∧
      (1000000000 ≤ nanos → seconds % 60 = 59) then
    some ⟨seconds, nanos, h.1.1, h.1.2, h.2.1, h.2.2⟩
  else none

def epoch : Instant := ⟨0, 0, by decide, by decide, by decide, by decide⟩

def latest : Instant := ⟨8210266876799, 999999999, by decide, by decide, by decide, by decide⟩

instance : Inhabited Instant := ⟨epoch⟩

def isLeap (t : Instant) : Bool := 1000000000 ≤ t.nanos

instance : LT Instant := ⟨fun a b => a.seconds < b.seconds ∨ a.seconds = b.seconds ∧ a.nanos < b.nanos⟩
instance : LE Instant := ⟨fun a b => a.seconds < b.seconds ∨ a.seconds = b.seconds ∧ a.nanos ≤ b.nanos⟩

instance (a b : Instant) : Decidable (a < b) := inferInstanceAs (Decidable (_ ∨ _))
instance (a b : Instant) : Decidable (a ≤ b) := inferInstanceAs (Decidable (_ ∨ _))

def ofNanos? (total : Int) : Option Instant := ofParts? (total / 1000000000) (total % 1000000000).toNat

/-- A sum that stays within the leap second keeps it. Any other counts on as if it were the second
before, or, backwards, the second after. -/
def add? (t : Instant) (d : Span) : Option Instant :=
  let whole := d.wholeSeconds
  let part := d.subNanos
  if 1000000000 ≤ t.nanos then
    if 0 < whole ∨ (0 < part ∧ 2000000000 ≤ t.nanos + part) then
      ofNanos? (t.seconds * 1000000000 + (t.nanos - 1000000000) + d.nanos)
    else if whole < 0 then
      ofNanos? ((t.seconds + 1) * 1000000000 + (t.nanos - 1000000000) + d.nanos)
    else ofParts? t.seconds (t.nanos + part).toNat
  else ofNanos? (t.seconds * 1000000000 + t.nanos + d.nanos)

def timeOfDay (t : Instant) : Int := t.seconds % 86400

/-- A leap second counts where one time of day lies past the other's. -/
def since (a b : Instant) : Span :=
  let leap : Int :=
    if b.timeOfDay < a.timeOfDay ∧ 1000000000 ≤ b.nanos then 1
    else if a.timeOfDay < b.timeOfDay ∧ 1000000000 ≤ a.nanos then -1
    else 0
  ⟨(a.seconds - b.seconds + leap) * 1000000000 + ((a.nanos : Int) - b.nanos)⟩

def after (t : Instant) (seconds : Nat) : Instant := (t.add? (.seconds seconds)).getD latest

end Instant

end Signalgrid
