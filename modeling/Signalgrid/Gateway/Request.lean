import Signalgrid.Grid
import Signalgrid.Control.Controller

set_option autoImplicit false

namespace Signalgrid

inductive Request where
  | status (intersection : String)
  | history (start stop : Instant) (intersection : Option String)
  | greenWave (route : Route) (reason requestedBy : Option String)
  | manualChange (intersection : String) (color : Color) (requestedBy : Option String)
  | summary
  | health
deriving DecidableEq

inductive RequestFault where
  | malformed (text : String)
  | unknownIntersection (name : String)
  | badRoute (text : String)
  | noStore (text : String)
deriving Repr, DecidableEq

open Decode Json

namespace Route

def encode : Route → Json
  | .intersections names => .obj [("intersections", strings names)]
  | .row label => .obj [("row", .str label)]
  | .column number => .obj [("column", .nat number)]

def readers : List (String × Decoder Route) :=
  [("intersections", fun s j => (list string s j).map .intersections),
   ("row", fun s j => (string s j).map .row),
   ("column", fun s j => (u32 s j).map .column)]

def decode : Decoder Route :=
  variant readers (fun _ => .error (.invalidType "unit variant" "newtype variant")) fun s d j => d s j

end Route

namespace Request

def name : Request → String
  | .status .. => "INTERSECTION_STATUS"
  | .history .. => "CONGESTION_HISTORY"
  | .greenWave .. => "FORCE_GREEN_WAVE"
  | .manualChange .. => "MANUAL_SEMAPHORE_CHANGE"
  | .summary => "SYSTEM_SUMMARY"
  | .health => "HEALTH_CHECK"

def members : Request → List Json.Member
  | .status intersection => [("intersection", .str intersection)]
  | .history start stop intersection =>
      [("from", start.encode), ("to", stop.encode), ("intersection", ofOption .str intersection)]
  | .greenWave route reason requestedBy =>
      [("route", route.encode), ("reason", ofOption .str reason),
        ("requested_by", ofOption .str requestedBy)]
  | .manualChange intersection color requestedBy =>
      [("intersection", .str intersection), ("color", color.encode),
        ("requested_by", ofOption .str requestedBy)]
  | .summary | .health => []

def encode (r : Request) : Json := .obj (("command", .str r.name) :: r.members)

def decode : Decoder Request :=
  tagged "command" "GatewayRequest"
    [("INTERSECTION_STATUS",
      record "struct variant GatewayRequest::IntersectionStatus"
        (Fields.of Request.status |>.needs "intersection" string)),
     ("CONGESTION_HISTORY",
      record "struct variant GatewayRequest::CongestionHistory"
        (Fields.of Request.history |>.needs "from" instant |>.needs "to" instant
          |>.orNone "intersection" string)),
     ("FORCE_GREEN_WAVE",
      record "struct variant GatewayRequest::ForceGreenWave"
        (Fields.of Request.greenWave |>.needs "route" Route.decode |>.orNone "reason" string
          |>.orNone "requested_by" string)),
     ("MANUAL_SEMAPHORE_CHANGE",
      record "struct variant GatewayRequest::ManualSemaphoreChange"
        (Fields.of Request.manualChange |>.needs "intersection" string |>.needs "color" Color.decode
          |>.orNone "requested_by" string)),
     ("SYSTEM_SUMMARY", nothing .summary),
     ("HEALTH_CHECK", nothing .health)]

end Request

namespace RequestFault

def code : RequestFault → String
  | .malformed _ => "MALFORMED_REQUEST"
  | .unknownIntersection _ => "UNKNOWN_INTERSECTION"
  | .badRoute _ => "INVALID_OVERRIDE_ROUTE"
  | .noStore _ => "STORE_UNAVAILABLE"

def text : RequestFault → String
  | .malformed t | .unknownIntersection t | .badRoute t | .noStore t => t

def message : RequestFault → String
  | .malformed t => "malformed request: " ++ t
  | .unknownIntersection t => "unknown intersection " ++ t
  | .badRoute t => "invalid override route: " ++ t
  | .noStore t => "store unavailable: " ++ t

def encode (e : RequestFault) : Json := .obj [("code", .str e.code), ("message", .str e.text)]

def decode : Decoder RequestFault :=
  adjacent "code" "message" "GatewayError"
    [("MALFORMED_REQUEST", .map .malformed string),
     ("UNKNOWN_INTERSECTION", .map .unknownIntersection string),
     ("INVALID_OVERRIDE_ROUTE", .map .badRoute string),
     ("STORE_UNAVAILABLE", .map .noStore string)]

def ofGrid : GridFault → RequestFault
  | .unknownIntersection name => .unknownIntersection name
  | e => .badRoute e.message

def ofControl : ControlFault → RequestFault
  | .unknownIntersection name => .unknownIntersection name
  | .badRoute e => .badRoute e.message

end RequestFault

end Signalgrid
