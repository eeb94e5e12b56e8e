import Signalgrid.Json.Basic

set_option autoImplicit false

namespace Signalgrid.Toml

/-- How a table came to be: by its own header or braces, as a part of a longer header, or as a part of a
dotted key. -/
inductive Origin where
  | header
  | implied
  | dotted
deriving Repr, DecidableEq

inductive Node where
  | leaf (j : Json)
  | table (origin : Origin) (entries : List (String × Node))
  -- An array of tables, the one under construction first.
  | tables (rows : List (List (String × Node)))

abbrev Entries := List (String × Node)

namespace Node

mutual

def toJson : Node → Json
  | .leaf j => j
  | .table _ entries => .obj (entriesJson entries)
  | .tables rows => .arr (rowsJson rows [])

def entriesJson : Entries → List Json.Member
  | [] => []
  | (key, node) :: rest => (key, toJson node) :: entriesJson rest

def rowsJson : List Entries → List Json → List Json
  | [], done => done
  | entries :: rest, done => rowsJson rest (.obj (entriesJson entries) :: done)

end

end Node

namespace Entries

def update (key : String) (f : Option Node → Option Node) : Entries → Option Entries
  | [] => (f none).map fun node => [(key, node)]
  | (k, node) :: rest =>
      if k = key then (f (some node)).map fun node => (k, node) :: rest
      else (update key f rest).map ((k, node) :: ·)

def descend (dotted : Bool) (f : Origin → Entries → Option Entries) :
    List String → Origin → Entries → Option Entries
  | [], origin, entries => f origin entries
  | key :: path, _, entries =>
      entries.update key fun found =>
        match found with
        | none =>
            let origin : Origin := if dotted then .dotted else .implied
            (descend dotted f path origin []).map (.table origin)
        | some (.leaf _) => none
        | some (.table origin inner) =>
            if dotted ∧ origin = .header then none
            else (descend dotted f path origin inner).map (.table origin)
        | some (.tables (row :: rows)) =>
            (descend dotted f path .header row).map fun row => .tables (row :: rows)
        | some (.tables []) => none

def put (path : List String) (key : String) (j : Json) (entries : Entries) : Option Entries :=
  entries.descend true
    (fun origin inner =>
      if decide (origin = .dotted) == path.isEmpty then none
      else inner.update key fun found => if found.isSome then none else some (.leaf j))
    path .header

def openTable : Option Node → Option Node
  | none => some (.table .header [])
  | some (.table .implied inner) => some (.table .header inner)
  | some _ => none

def openRow : Option Node → Option Node
  | none => some (.tables [[]])
  | some (.tables rows) => some (.tables ([] :: rows))
  | some _ => none

def start (opening : Option Node → Option Node) (path : List String) (key : String)
    (entries : Entries) : Option Entries :=
  entries.descend false (fun _ inner => inner.update key opening) path .header

def putBelow (header path : List String) (key : String) (j : Json) (entries : Entries) : Option Entries :=
  entries.descend false (fun _ inner => inner.put path key j) header .header

end Entries

end Signalgrid.Toml
