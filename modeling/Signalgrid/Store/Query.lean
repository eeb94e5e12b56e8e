import Signalgrid.Record.Basic

set_option autoImplicit false

namespace Signalgrid

inductive StoreFault where
  | unavailable (text : String)
  | timeout
  | backend (text : String)
  | protocol (text : String)
deriving Repr, DecidableEq

def StoreFault.message : StoreFault → String
  | .unavailable text => "store unavailable: " ++ text
  | .timeout => "store request timed out"
  | .backend text => "store backend error: " ++ text
  | .protocol text => "store protocol error: " ++ text

inductive Query where
  | history (start stop : Instant) (intersection : Option IntersectionId)
  | events (intersection : IntersectionId) (limit : Nat)
  | lastChange (intersection : IntersectionId)
  | overrides (limit : Nat)
  | totals
deriving DecidableEq

inductive Reply where
  | history (rows : List DecisionRow)
  | events (rows : List Reading)
  | lastChange (row : Option Transition)
  | overrides (rows : List Override)
  | totals (t : Totals)

namespace Reply

def kind : Reply → String
  | .history _ => "history"
  | .events _ => "events"
  | .lastChange _ => "semaphore"
  | .overrides _ => "priority_actions"
  | .totals _ => "summary"

def unexpected {α : Type} (r : Reply) : Except StoreFault α :=
  .error (.protocol ("unexpected " ++ r.kind ++ " reply"))

def history? : Reply → Except StoreFault (List DecisionRow)
  | .history rows => .ok rows
  | r => r.unexpected

def events? : Reply → Except StoreFault (List Reading)
  | .events rows => .ok rows
  | r => r.unexpected

def lastChange? : Reply → Except StoreFault (Option Transition)
  | .lastChange row => .ok row
  | r => r.unexpected

def overrides? : Reply → Except StoreFault (List Override)
  | .overrides rows => .ok rows
  | r => r.unexpected

def totals? : Reply → Except StoreFault Totals
  | .totals t => .ok t
  | r => r.unexpected

end Reply

open Decode Json

namespace Query

def encode : Query → Json
  | .history start stop intersection =>
      .obj
        [("query", .str "congestion_history"), ("from", start.encode), ("to", stop.encode),
          ("intersection", ofOption .str intersection)]
  | .events intersection limit =>
      .obj [("query", .str "recent_events"), ("intersection", .str intersection), ("limit", .nat limit)]
  | .lastChange intersection =>
      .obj [("query", .str "latest_semaphore"), ("intersection", .str intersection)]
  | .overrides limit => .obj [("query", .str "priority_actions"), ("limit", .nat limit)]
  | .totals => .obj [("query", .str "summary")]

def decode : Decoder Query :=
  tagged "query" "StoreQuery"
    [("congestion_history",
      record "struct variant StoreQuery::CongestionHistory"
        (Fields.of Query.history |>.needs "from" instant |>.needs "to" instant
          |>.orNone "intersection" string)),
     ("recent_events",
      record "struct variant StoreQuery::RecentEvents"
        (Fields.of Query.events |>.needs "intersection" string |>.needs "limit" size)),
     ("latest_semaphore",
      record "struct variant StoreQuery::LatestSemaphore"
        (Fields.of Query.lastChange |>.needs "intersection" string)),
     ("priority_actions",
      record "struct variant StoreQuery::PriorityActions"
        (Fields.of Query.overrides |>.needs "limit" size)),
     ("summary", nothing .totals)]

end Query

namespace Reply

def data : Reply → Json
  | .history rows => .arr (rows.map DecisionRow.encode)
  | .events rows => .arr (rows.map Reading.encode)
  | .lastChange row => ofOption Transition.encode row
  | .overrides rows => .arr (rows.map Override.encode)
  | .totals t => t.encode

def encode (r : Reply) : Json := .obj [("reply", .str r.kind), ("data", r.data)]

def decode : Decoder Reply :=
  adjacent "reply" "data" "StoreReply"
    [("history", .map .history (list DecisionRow.decode)),
     ("events", .map .events (list Reading.decode)),
     ("semaphore", { Content.map .lastChange (option Transition.decode) with missing := some (.lastChange none) }),
     ("priority_actions", .map .overrides (list Override.decode)),
     ("summary", .map .totals Totals.decode)]

end Reply

end Signalgrid
