import Signalgrid.Settings.Basic
import Signalgrid.Json.Decode
import Signalgrid.Sensor.Reading

set_option autoImplicit false

namespace Signalgrid

inductive Color where
  | red
  | green
deriving Repr, DecidableEq

namespace Color

def flip : Color → Color
  | .red => .green
  | .green => .red

def label : Color → String
  | .red => "RED"
  | .green => "GREEN"

def encode (c : Color) : Json := .str c.label

def decode : Decoder Color := Decode.choice [("RED", .red), ("GREEN", .green)]

end Color

inductive Cause where
  | congestion
  | priority
  | manual
deriving Repr, DecidableEq

namespace Cause

def label : Cause → String
  | .congestion => "congestion"
  | .priority => "priority-override"
  | .manual => "manual"

def encode (c : Cause) : Json := .str c.label

def decode : Decoder Cause :=
  Decode.choice [("congestion", .congestion), ("priority-override", .priority), ("manual", .manual)]

end Cause

structure Command where
  intersection : IntersectionId
  target : Color
  cause : Cause
  -- Without a duration the color is held.
  seconds : Option Nat
  issuedAt : Instant
deriving DecidableEq

inductive Mode where
  | cycling
  | timed (deadline : Instant) (cause : Cause)
  | held
deriving DecidableEq

structure Signal where
  color : Color
  since : Instant
  mode : Mode
  -- Where the running cycle is anchored; means nothing in other modes.
  phaseStart : Instant
deriving DecidableEq

structure Transition where
  intersection : IntersectionId
  before : Color
  after : Color
  reason : String
  timer : Option Instant
  moment : Instant
deriving DecidableEq

namespace Signal

def start (now : Instant) : Signal := ⟨.red, now, .cycling, now⟩

def timer (s : Signal) : Option Instant :=
  match s.mode with
  | .timed deadline _ => some deadline
  | _ => none

def extending (s : Signal) (now : Instant) : Bool :=
  match s.mode with
  | .timed deadline .congestion => now < deadline
  | _ => false

def Command.mode (c : Command) : Mode :=
  match c.seconds with
  | some n => .timed (c.issuedAt.after n) c.cause
  | none => .held

def apply (s : Signal) (c : Command) : Signal × Option Transition :=
  let mode := Command.mode c
  if mode = .held ∧ s.mode = .held ∧ s.color = c.target then (s, none)
  else
    let next : Signal :=
      { color := c.target
        since := if s.color = c.target then s.since else c.issuedAt
        mode := mode
        phaseStart := c.issuedAt }
    (next, some ⟨c.intersection, s.color, c.target, c.cause.label, next.timer, c.issuedAt⟩)

def resume (s : Signal) (now : Instant) : Signal :=
  if s.mode = .cycling then s else { s with mode := .cycling, phaseStart := now }

def lapse (s : Signal) (now : Instant) : Signal :=
  match s.mode with
  | .timed deadline _ => if now < deadline then s else { s with mode := .cycling, phaseStart := deadline }
  | _ => s

def cycleSpan (cycleSeconds : Nat) : Span := .seconds (max 1 cycleSeconds)

def phases (cycle : Span) (s : Signal) (now : Instant) : Int :=
  (now.since s.phaseStart).wholeSeconds / cycle.wholeSeconds

/-- No tick moves the anchor further than this many cycles. -/
def maxPhases : Int := 2147483647

def nextAnchor? (cycle : Span) (s : Signal) (now : Instant) : Option Instant :=
  s.phaseStart.add? ⟨cycle.nanos * min (phases cycle s now) maxPhases⟩

def turn (cycle : Span) (id : IntersectionId) (s : Signal) (now : Instant) : Signal × Option Transition :=
  if now.since s.phaseStart < cycle then (s, none)
  else
    let anchor := (nextAnchor? cycle s now).getD .latest
    if phases cycle s now % 2 = 0 then ({ s with phaseStart := anchor }, none)
    else
      ({ s with color := s.color.flip, since := anchor, phaseStart := anchor },
        some ⟨id, s.color, s.color.flip, "cycle", none, anchor⟩)

def tick (cycle : Span) (id : IntersectionId) (s : Signal) (now : Instant) : Signal × Option Transition :=
  let s' := s.lapse now
  if s'.mode = .cycling then turn cycle id s' now else (s', none)

def canTick (cycle : Span) (s : Signal) (now : Instant) : Bool :=
  let s' := s.lapse now
  !(s'.mode = .cycling) || now.since s'.phaseStart < cycle || (nextAnchor? cycle s' now).isSome

end Signal

open Decode Json

namespace Command

def encode (c : Command) : Json :=
  .obj
    [("intersection", .str c.intersection), ("target_color", c.target.encode),
      ("reason", c.cause.encode), ("duration_secs", ofOption .nat c.seconds),
      ("issued_at", c.issuedAt.encode)]

def decode : Decoder Command :=
  record "struct SemaphoreCommand" <|
    Fields.of Command.mk
      |>.needs "intersection" string
      |>.needs "target_color" Color.decode
      |>.needs "reason" Cause.decode
      |>.mayHave "duration_secs" u64
      |>.needs "issued_at" instant

end Command

namespace Mode

def encode : Mode → Json
  | .cycling => .obj [("mode", .str "cycling")]
  | .timed deadline cause =>
      .obj [("mode", .str "timed"), ("until", deadline.encode), ("reason", cause.encode)]
  | .held => .obj [("mode", .str "held")]

def decode : Decoder Mode :=
  tagged "mode" "SemaphoreMode"
    [("cycling", nothing .cycling),
     ("timed",
      record "struct variant SemaphoreMode::Timed"
        (Fields.of Mode.timed |>.needs "until" instant |>.needs "reason" Cause.decode)),
     ("held", nothing .held)]

end Mode

namespace Signal

def encode (s : Signal) : Json :=
  .obj
    [("color", s.color.encode), ("since", s.since.encode), ("mode", s.mode.encode),
      ("phase_started_at", s.phaseStart.encode)]

def decode : Decoder Signal :=
  record "struct SemaphoreState" <|
    Fields.of Signal.mk
      |>.needs "color" Color.decode
      |>.needs "since" instant
      |>.needs "mode" Mode.decode
      |>.needs "phase_started_at" instant

end Signal

namespace Transition

def members (t : Transition) : List Json.Member :=
  [("intersection", .str t.intersection), ("old_color", t.before.encode), ("new_color", t.after.encode),
    ("reason", .str t.reason), ("timer_until", ofOption Instant.encode t.timer), ("at", t.moment.encode)]

def encode (t : Transition) : Json := .obj t.members

def decode : Decoder Transition :=
  record "struct SemaphoreTransition" <|
    Fields.of Transition.mk
      |>.needs "intersection" string
      |>.needs "old_color" Color.decode
      |>.needs "new_color" Color.decode
      |>.needs "reason" string
      |>.mayHave "timer_until" instant
      |>.needs "at" instant

end Transition

end Signalgrid
