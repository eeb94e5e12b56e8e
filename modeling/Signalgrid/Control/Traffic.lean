import Signalgrid.Control.Rules
import Signalgrid.Control.Signal

set_option autoImplicit false

namespace Signalgrid

inductive TrafficKind where
  | normal
  | congestion
  | greenWave
deriving Repr, DecidableEq

namespace TrafficKind

def label : TrafficKind → String
  | .normal => "NORMAL"
  | .congestion => "CONGESTION"
  | .greenWave => "GREEN_WAVE"

def encode (k : TrafficKind) : Json := .str k.label

def decode : Decoder TrafficKind :=
  Decode.choice [("NORMAL", .normal), ("CONGESTION", .congestion), ("GREEN_WAVE", .greenWave)]

end TrafficKind

structure Traffic where
  kind : TrafficKind
  enteredAt : Instant
  -- Of a green wave only.
  expiresAt : Option Instant
deriving DecidableEq

inductive Action where
  | none
  | extendGreen
  | greenWave
  | forceChange
deriving Repr, DecidableEq

namespace Action

def label : Action → String
  | .none => "NO_ACTION"
  | .extendGreen => "EXTEND_GREEN"
  | .greenWave => "GREEN_WAVE"
  | .forceChange => "FORCE_CHANGE"

def encode (a : Action) : Json := .str a.label

def decode : Decoder Action :=
  Decode.choice
    [("NO_ACTION", .none), ("EXTEND_GREEN", .extendGreen), ("GREEN_WAVE", .greenWave),
      ("FORCE_CHANGE", .forceChange)]

end Action

structure Evaluation where
  previous : TrafficKind
  current : TrafficKind
  action : Action
  command : Option Command
  resume : Bool
  details : String
deriving DecidableEq

def Evaluation.changed (e : Evaluation) : Bool := e.previous ≠ e.current

structure Policy where
  thresholds : Thresholds
  timings : Timings

def Policy.ofSettings (s : Settings) : Policy := ⟨s.thresholds, s.timings⟩

namespace Traffic

def start (now : Instant) : Traffic := ⟨.normal, now, none⟩

def waveActive (t : Traffic) (now : Instant) : Bool :=
  t.kind = .greenWave && t.expiresAt.any fun e => now < e

def secondsText (n : Nat) : String := toString n ++ "s"

def extension (p : Policy) (id : IntersectionId) (previous : TrafficKind) (now : Instant)
    (details : String) : Evaluation :=
  let n := p.timings.extensionSeconds
  { previous := previous
    current := .congestion
    action := .extendGreen
    command := some ⟨id, .green, .congestion, some n, now⟩
    resume := false
    details := details ++ "; green extended " ++ secondsText n }

def calm (previous : TrafficKind) (resume : Bool) (details : String) : Evaluation :=
  ⟨previous, .normal, .none, none, resume, details⟩

def leaveWave (p : Policy) (id : IntersectionId) (verdict : Verdict) (now : Instant) :
    Traffic × Option Evaluation :=
  match verdict with
  | .congestion =>
      (⟨.congestion, now, none⟩,
        some (extension p id .greenWave now "green wave expired under congestion"))
  | _ =>
      (⟨.normal, now, none⟩,
        some (calm .greenWave false ("green wave expired; rules " ++ verdict.label)))

def evaluate (p : Policy) (id : IntersectionId) (t : Traffic) (s : Snapshot) (extending : Bool)
    (now : Instant) : Traffic × Option Evaluation :=
  let verdict := p.thresholds.judge s
  if t.kind = .greenWave then
    if t.waveActive now then (t, none) else leaveWave p id verdict now
  else match verdict with
    | .congestion =>
        if t.kind ≠ .congestion then
          (⟨.congestion, now, none⟩, some (extension p id t.kind now "congestion detected"))
        else if !extending then (t, some (extension p id t.kind now "congestion persists"))
        else (t, none)
    | .normal =>
        if t.kind ≠ .normal then
          (⟨.normal, now, none⟩, some (calm t.kind extending "traffic back to normal"))
        else (t, none)
    | .inconclusive => (t, none)

def enterWave (p : Policy) (id : IntersectionId) (t : Traffic) (now : Instant) : Traffic × Evaluation :=
  let n := p.timings.waveSeconds
  (⟨.greenWave, now, some (now.after n)⟩,
    { previous := t.kind
      current := .greenWave
      action := .greenWave
      command := some ⟨id, .green, .priority, some n, now⟩
      resume := false
      details := "green wave for " ++ secondsText n })

open Decode Json

def encode (t : Traffic) : Json :=
  .obj
    [("kind", t.kind.encode), ("entered_at", t.enteredAt.encode),
      ("expires_at", ofOption Instant.encode t.expiresAt)]

def decode : Decoder Traffic :=
  record "struct TrafficState" <|
    Fields.of Traffic.mk
      |>.needs "kind" TrafficKind.decode
      |>.needs "entered_at" instant
      |>.mayHave "expires_at" instant

end Traffic

end Signalgrid
