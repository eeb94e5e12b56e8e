import Signalgrid.Gateway.Request
import Signalgrid.Proofs.Store.Codecs

set_option autoImplicit false

namespace Signalgrid

open Decode Json Decoder

namespace Route

def Fits : Route → Prop
  | .column number => number < 4294967296
  | .intersections _ | .row _ => True

theorem reads {r : Route} (fits : r.Fits) : decode.Reads r.encode r := by
  cases r with
  | intersections names =>
    exact .variant rfl ((Reads.list fun name _ => .string name).map Route.intersections)
  | row label => exact .variant rfl ((Reads.string label).map Route.row)
  | column number => exact .variant rfl ((Reads.unsigned "u32" fits).map Route.column)

end Route

namespace Request

def Fits : Request → Prop
  | .greenWave route _ _ => route.Fits
  | .status _ | .history .. | .manualChange .. | .summary | .health => True

theorem reads {r : Request} (fits : r.Fits) : decode.Reads r.encode r := by
  cases r with
  | status intersection =>
    refine .tagged rfl (by simp [members]) (.record (by decide) rfl ?_)
    exact (Fields.Reads.of Request.status _).field _ rfl (.string intersection)
  | history start stop intersection =>
    refine .tagged rfl (by simp [members]) (.record (by decide) rfl ?_)
    exact Fields.Reads.of Request.history _
      |>.field _ rfl (.instant start)
      |>.field _ rfl (.instant stop)
      |>.field _ rfl (.optionString intersection)
  | greenWave route reason requestedBy =>
    refine .tagged rfl (by simp [members]) (.record (by decide) rfl ?_)
    exact Fields.Reads.of Request.greenWave _
      |>.field _ rfl (Route.reads fits)
      |>.field _ rfl (.optionString reason)
      |>.field _ rfl (.optionString requestedBy)
  | manualChange intersection color requestedBy =>
    refine .tagged rfl (by simp [members]) (.record (by decide) rfl ?_)
    exact Fields.Reads.of Request.manualChange _
      |>.field _ rfl (.string intersection)
      |>.field _ rfl color.reads
      |>.field _ rfl (.optionString requestedBy)
  | summary => exact .tagged rfl (by simp [members]) (.nothing Request.summary)
  | health => exact .tagged rfl (by simp [members]) (.nothing Request.health)

end Request

theorem sent_values_read_back :
    (∀ r : Record, r.Fits → Record.decode.Reads r.encode r) ∧
    (∀ q : Query, q.Fits → Query.decode.Reads q.encode q) ∧
    (∀ r : Reply, r.Fits → Reply.decode.Reads r.encode r) ∧
    (∀ r : StoreRequest, r.Fits → StoreRequest.decode.Reads r.encode r) ∧
    (∀ r : StoreResponse, r.Fits → StoreResponse.decode.Reads r.encode r) ∧
    ∀ r : Request, r.Fits → Request.decode.Reads r.encode r :=
  ⟨fun _ => Record.reads, fun _ => Query.reads, fun _ => Reply.reads, fun _ => StoreRequest.reads,
    fun _ => StoreResponse.reads, fun _ => Request.reads⟩

theorem sent_values_read_back_nested :
    let reading : Record := .event ⟨"INT-A1", "CAM-A1", .epoch, .queue 3 25.5⟩
    let metrics : Json := .obj [("op", .str "query"), ("record", .arr [.null, .obj [("status", .int (-1))]])]
    let decision : DecisionRow := ⟨"INT-A1", .normal, .congestion, .extendGreen, "queue", metrics, .epoch⟩
    let past : Query := .history .epoch .latest none
    let wave : Request := .greenWave (.column 4) none (some "operator")
    Record.decode .text reading.encode = .ok reading ∧
    Query.decode .text past.encode.canonical = .ok past ∧
    Reply.decode .tree (Reply.lastChange none).encode = .ok (.lastChange none) ∧
    StoreRequest.decode .text (StoreRequest.insert (.decision decision)).encode.canonical =
      .ok (.insert (.decision decision)) ∧
    StoreResponse.decode .text (StoreResponse.ok (some (.lastChange none))).encode =
      .ok (.ok (some (.lastChange none))) ∧
    StoreResponse.decode .tree (StoreResponse.ok none).encode = .ok (.ok none) ∧
    Request.decode .text wave.encode.canonical = .ok wave := by
  intro reading metrics decision past wave
  obtain ⟨records, queries, replies, requests, responses, orders⟩ := sent_values_read_back
  have reading_fits : reading.Fits := ⟨by decide, by decide⟩
  have none_fits : (Reply.lastChange none).Fits := trivial
  have reply_fits : (StoreResponse.ok (some (.lastChange none))).Fits := by
    rintro _ ⟨⟩
    exact none_fits
  have wave_fits : wave.Fits := by
    show 4 < 4294967296
    decide
  exact ⟨(records reading reading_fits).exact .text, (queries past trivial).canonical .text,
    (replies _ none_fits).exact .tree, (requests (.insert (.decision decision)) rfl).canonical .text,
    (responses _ reply_fits).exact .text, (responses (.ok none) fun _ => nofun).exact .tree,
    (orders wave wave_fits).canonical .text⟩

end Signalgrid
