import Signalgrid.Proofs.Json.Codecs
import Signalgrid.Proofs.Record.Texts

set_option autoImplicit false

namespace Signalgrid

open Decode Json Decoder

theorem Decoder.Reads.instant (t : Instant) : Decode.instant.Reads t.encode t where
  distinct := trivial
  reads := by
    intro source k alike
    rw [alike.str, ← Instant.encode, Instant.decode_encode]

theorem Level.reads (l : Level) : decode.Reads l.encode l := by
  cases l <;> exact .choice rfl

theorem Color.reads (c : Color) : decode.Reads c.encode c := by
  cases c <;> exact .choice rfl

theorem TrafficKind.reads (k : TrafficKind) : decode.Reads k.encode k := by
  cases k <;> exact .choice rfl

theorem Action.reads (a : Action) : decode.Reads a.encode a := by
  cases a <;> exact .choice rfl

theorem OverrideKind.reads (k : OverrideKind) : decode.Reads k.encode k := by
  cases k <;> exact .choice rfl

namespace Measurement

def Fits : Measurement → Prop
  | .queue length speed => length < 4294967296 ∧ speed.isFinite = true
  | .vehicles count _ _ => count < 4294967296
  | .density speed _ => speed.isFinite = true

theorem reads {m : Measurement} (fits : m.Fits) : decode.Reads m.encode m := by
  cases m with
  | queue length speed =>
    refine .tagged rfl (by simp) (.record (by decide) rfl ?_)
    exact Fields.Reads.of Measurement.queue _
      |>.field _ rfl (.unsigned "u32" fits.1)
      |>.field _ rfl (.finite fits.2)
  | vehicles count start stop =>
    refine .tagged rfl (by simp) (.record (by decide) rfl ?_)
    exact Fields.Reads.of Measurement.vehicles _
      |>.field _ rfl (.unsigned "u32" fits)
      |>.field _ rfl (.instant start)
      |>.field _ rfl (.instant stop)
  | density speed level =>
    refine .tagged rfl (by simp) (.record (by decide) rfl ?_)
    exact Fields.Reads.of Measurement.density _
      |>.field _ rfl (.finite fits)
      |>.field _ rfl level.reads

end Measurement

namespace Reading

theorem reads {r : Reading} (fits : r.measurement.Fits) : decode.Reads r.encode r := by
  refine .record (by decide) rfl ?_
  exact Fields.Reads.of Reading.mk r.members
    |>.field _ rfl (.string r.intersection)
    |>.field _ rfl (.string r.sensor)
    |>.field _ rfl (.instant r.observedAt)
    |>.field _ rfl (Measurement.reads fits)

end Reading

namespace Transition

theorem reads (t : Transition) : decode.Reads t.encode t := by
  have timer : (option instant).Reads (ofOption Instant.encode t.timer) t.timer :=
    .option (fun deadline _ => .instant deadline) fun _ _ => nofun
  refine .record (by decide) rfl ?_
  exact Fields.Reads.of Transition.mk t.members
    |>.field _ rfl (.string t.intersection)
    |>.field _ rfl t.before.reads
    |>.field _ rfl t.after.reads
    |>.field _ rfl (.string t.reason)
    |>.field _ rfl timer
    |>.field _ rfl (.instant t.moment)

end Transition

namespace DecisionRow

/-- The metrics are a value and not a text: each key once, in no order of its own. -/
def Fits (d : DecisionRow) : Prop := d.metrics.canonical = d.metrics

theorem reads {d : DecisionRow} (fits : d.Fits) : decode.Reads d.encode d := by
  refine .record (by decide) rfl ?_
  exact Fields.Reads.of DecisionRow.mk d.members
    |>.field _ rfl (.string d.intersection)
    |>.field _ rfl d.previous.reads
    |>.field _ rfl d.current.reads
    |>.field _ rfl d.action.reads
    |>.field _ rfl (.string d.details)
    |>.field _ rfl (.tree fits)
    |>.field _ rfl (.instant d.recordedAt)

end DecisionRow

namespace Override

theorem reads (a : Override) : decode.Reads a.encode a := by
  refine .record (by decide) rfl ?_
  exact Fields.Reads.of Override.mk a.members
    |>.field _ rfl a.kind.reads
    |>.field _ rfl (.string a.target)
    |>.field _ rfl (.string a.reason)
    |>.field _ rfl (.string a.requestedBy)
    |>.field _ rfl (.list fun name _ => .string name)
    |>.field _ rfl (.instant a.requestedAt)

end Override

namespace Record

def Fits : Record → Prop
  | .event r => r.measurement.Fits
  | .decision d => d.Fits
  | .change _ | .action _ => True

theorem tag_free (r : Record) : "record" ∉ r.members.map Prod.fst := by
  cases r <;> simp [members, Reading.members, Transition.members, DecisionRow.members, Override.members]

theorem reads {r : Record} (fits : r.Fits) : decode.Reads r.encode r := by
  have apart := r.tag_free
  cases r with
  | event r => exact .tagged rfl apart ((Reading.reads fits).map Record.event)
  | change t => exact .tagged rfl apart (t.reads.map Record.change)
  | decision d => exact .tagged rfl apart ((DecisionRow.reads fits).map Record.decision)
  | action a => exact .tagged rfl apart (a.reads.map Record.action)

end Record

namespace Totals

structure Fits (t : Totals) : Prop where
  events : t.events < 18446744073709551616
  congestions : t.congestions < 18446744073709551616
  greenWaves : t.greenWaves < 18446744073709551616
  changes : t.changes < 18446744073709551616

theorem reads {t : Totals} (fits : t.Fits) : decode.Reads t.encode t := by
  refine .record (by decide) rfl ?_
  exact Fields.Reads.of Totals.mk _
    |>.field _ rfl (.unsigned "u64" fits.events)
    |>.field _ rfl (.unsigned "u64" fits.congestions)
    |>.field _ rfl (.unsigned "u64" fits.greenWaves)
    |>.field _ rfl (.unsigned "u64" fits.changes)

end Totals

end Signalgrid
