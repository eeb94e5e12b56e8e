set_option autoImplicit false

namespace Signalgrid

structure Span where
  nanos : Int
deriving Repr, DecidableEq

namespace Span

def perSecond : Nat := 1000000000

/-- The largest 64-bit count of milliseconds. -/
def max : Span := ⟨9223372036854775807000000⟩

def ofNanos? (n : Int) : Option Span :=
  if n.natAbs ≤ max.nanos.natAbs then some ⟨n⟩ else none

def ofSeconds? (s : Int) : Option Span := ofNanos? (s * perSecond)

def seconds (n : Nat) : Span := (ofSeconds? n).getD max

def wholeSeconds (d : Span) : Int := d.nanos.tdiv perSecond
def subNanos (d : Span) : Int := d.nanos.tmod perSecond

instance : LT Span := ⟨fun a b => a.nanos < b.nanos⟩
instance : LE Span := ⟨fun a b => a.nanos ≤ b.nanos⟩
instance (a b : Span) : Decidable (a < b) := inferInstanceAs (Decidable (a.nanos < b.nanos))
instance (a b : Span) : Decidable (a ≤ b) := inferInstanceAs (Decidable (a.nanos ≤ b.nanos))

end Span

end Signalgrid
