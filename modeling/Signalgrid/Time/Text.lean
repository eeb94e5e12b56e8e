import Signalgrid.Time.Instant

set_option autoImplicit false

namespace Signalgrid

def padded (width n : Nat) : List Char :=
  let ds := Nat.toDigits 10 n
  List.replicate (width - ds.length) '0' ++ ds

namespace Date

def yearText (year : Int) : List Char :=
  if 0 ≤ year ∧ year ≤ 9999 then padded 4 year.toNat
  else (if year < 0 then '-' else '+') :: padded 4 year.natAbs

def text (d : Date) : List Char := yearText d.year ++ '-' :: padded 2 d.month ++ '-' :: padded 2 d.day

end Date

namespace Instant

def date (t : Instant) : Date := .ofDays (t.seconds / 86400)

def secondText (t : Instant) : List Char :=
  padded 2 ((t.timeOfDay % 60).toNat + if 1000000000 ≤ t.nanos then 1 else 0)

def clockText (t : Instant) : List Char :=
  padded 2 (t.timeOfDay / 3600).toNat ++ ':' :: padded 2 (t.timeOfDay / 60 % 60).toNat ++ ':' :: t.secondText

def fraction (t : Instant) : Nat := t.nanos % 1000000000

def fractionText (t : Instant) : List Char :=
  let f := t.fraction
  if f = 0 then []
  else if f % 1000000 = 0 then '.' :: padded 3 (f / 1000000)
  else if f % 1000 = 0 then '.' :: padded 6 (f / 1000)
  else '.' :: padded 9 f

def dataText (t : Instant) : List Char :=
  t.date.text ++ 'T' :: t.clockText ++ t.fractionText ++ ['Z']

def proseText (t : Instant) : List Char :=
  t.date.text ++ ' ' :: t.clockText ++ t.fractionText ++ [' ', 'U', 'T', 'C']

/-- Of fixed width: microseconds, the rest cut off. -/
def sortText (t : Instant) : List Char :=
  t.date.text ++ 'T' :: t.clockText ++ '.' :: padded 6 (t.fraction / 1000) ++ ['Z']

def toData (t : Instant) : String := String.ofList t.dataText
def toProse (t : Instant) : String := String.ofList t.proseText
def toSortKey (t : Instant) : String := String.ofList t.sortText

end Instant

end Signalgrid
