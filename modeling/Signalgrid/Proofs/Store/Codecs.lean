import Signalgrid.Proofs.Record.Codecs
import Signalgrid.Store.Wire

set_option autoImplicit false

namespace Signalgrid

open Decode Json Decoder

namespace Query

def Fits : Query → Prop
  | .events _ limit | .overrides limit => limit < 18446744073709551616
  | .history .. | .lastChange _ | .totals => True

theorem reads {q : Query} (fits : q.Fits) : decode.Reads q.encode q := by
  cases q with
  | history start stop intersection =>
    refine .tagged rfl (by simp) (.record (by decide) rfl ?_)
    exact Fields.Reads.of Query.history _
      |>.field _ rfl (.instant start)
      |>.field _ rfl (.instant stop)
      |>.field _ rfl (.optionString intersection)
  | events intersection limit =>
    refine .tagged rfl (by simp) (.record (by decide) rfl ?_)
    exact Fields.Reads.of Query.events _
      |>.field _ rfl (.string intersection)
      |>.field _ rfl (.unsigned "usize" fits)
  | lastChange intersection =>
    refine .tagged rfl (by simp) (.record (by decide) rfl ?_)
    exact (Fields.Reads.of Query.lastChange _).field _ rfl (.string intersection)
  | overrides limit =>
    refine .tagged rfl (by simp) (.record (by decide) rfl ?_)
    exact (Fields.Reads.of Query.overrides _).field _ rfl (.unsigned "usize" fits)
  | totals => exact .tagged rfl (by simp) (.nothing Query.totals)

end Query

namespace Reply

def Fits : Reply → Prop
  | .history rows => ∀ d ∈ rows, d.Fits
  | .events rows => ∀ r ∈ rows, r.measurement.Fits
  | .lastChange _ | .overrides _ => True
  | .totals t => t.Fits

theorem reads {r : Reply} (fits : r.Fits) : decode.Reads r.encode r := by
  cases r with
  | history rows =>
    have each := Reads.list fun d listed => DecisionRow.reads (fits d listed)
    exact .adjacent rfl (by decide) (each.map Reply.history)
  | events rows =>
    have each := Reads.list fun r listed => Reading.reads (fits r listed)
    exact .adjacent rfl (by decide) (each.map Reply.events)
  | lastChange row =>
    -- No row is written as nothing, and nothing is read as no row.
    have held : (option Transition.decode).Reads (ofOption Transition.encode row) row :=
      .option (fun t _ => t.reads) fun _ _ => nofun
    exact .adjacent rfl (by decide) (held.map Reply.lastChange)
  | overrides rows =>
    have each := Reads.list fun (a : Override) (_ : a ∈ rows) => a.reads
    exact .adjacent rfl (by decide) (each.map Reply.overrides)
  | totals t => exact .adjacent rfl (by decide) ((Totals.reads fits).map Reply.totals)

end Reply

namespace StoreRequest

def Fits : StoreRequest → Prop
  | .insert r => r.Fits
  | .query q => q.Fits

theorem reads {r : StoreRequest} (fits : r.Fits) : decode.Reads r.encode r := by
  cases r with
  | insert r =>
    refine .tagged rfl (by simp) (.record (by decide) rfl ?_)
    exact (Fields.Reads.of StoreRequest.insert _).field _ rfl (Record.reads fits)
  | query q =>
    refine .tagged rfl (by simp) (.record (by decide) rfl ?_)
    exact (Fields.Reads.of StoreRequest.query _).field _ rfl (Query.reads fits)

end StoreRequest

namespace StoreResponse

def Fits : StoreResponse → Prop
  | .ok reply => ∀ r ∈ reply, r.Fits
  | .error _ => True

theorem reads {r : StoreResponse} (fits : r.Fits) : decode.Reads r.encode r := by
  cases r with
  | ok reply =>
    have held : (option Reply.decode).Reads (ofOption Reply.encode reply) reply :=
      .option (fun r there => Reply.reads (fits r there)) fun _ _ => nofun
    refine .tagged rfl (by simp) (.record (by decide) rfl ?_)
    exact (Fields.Reads.of StoreResponse.ok _).field _ rfl held
  | error message =>
    refine .tagged rfl (by simp) (.record (by decide) rfl ?_)
    exact (Fields.Reads.of StoreResponse.error _).field _ rfl (.string message)

end StoreResponse

end Signalgrid
