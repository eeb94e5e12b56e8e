import Signalgrid.Settings.Basic

set_option autoImplicit false

namespace Signalgrid

inductive Route where
  | intersections (names : List String)
  | row (label : String)
  | column (number : Nat)
deriving Repr, DecidableEq

def Route.describe : Route → String
  | .intersections names => String.intercalate "," names
  | .row label => "row " ++ label
  | .column number => "column " ++ toString number

inductive GridFault where
  | unknownIntersection (name : String)
  | unknownRow (label : String)
  | unknownColumn (number : Nat)
  | emptyRoute
deriving Repr, DecidableEq

def GridFault.message : GridFault → String
  | .unknownIntersection name => "unknown intersection " ++ name
  | .unknownRow label => "unknown grid row " ++ label
  | .unknownColumn number => "unknown grid column " ++ toString number
  | .emptyRoute => "route is empty"

structure Grid where
  rows : List String
  columns : List Nat
  ids : List IntersectionId
  sensors : List Sensor
deriving Repr

namespace Grid

def ofSettings (s : Settings) : Grid := ⟨s.rows, s.columns, s.intersections, s.sensorMap⟩

def resolve (g : Grid) (name : String) : Except GridFault IntersectionId :=
  if name ∈ g.ids then .ok name else .error (.unknownIntersection name)

/-- Of sensors with one id the last counts. -/
def sensor? (g : Grid) (id : String) : Option Sensor := g.sensors.reverse.find? fun s => s.id == id

def distinct : List IntersectionId → List IntersectionId → List IntersectionId
  | _, [] => []
  | seen, id :: rest => if id ∈ seen then distinct seen rest else id :: distinct (id :: seen) rest

def members (g : Grid) : Route → Except GridFault (List IntersectionId)
  | .intersections names => names.mapM g.resolve
  | .row label =>
      if label ∈ g.rows then .ok (g.columns.map (Settings.intersectionName label))
      else .error (.unknownRow label)
  | .column number =>
      if number ∈ g.columns then .ok (g.rows.map fun row => Settings.intersectionName row number)
      else .error (.unknownColumn number)

def expand (g : Grid) (route : Route) : Except GridFault (List IntersectionId) := do
  let ids ← g.members route
  if ids.isEmpty then .error .emptyRoute else .ok (distinct [] ids)

end Grid

end Signalgrid
