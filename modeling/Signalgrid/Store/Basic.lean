import Signalgrid.Store.Remote
import Signalgrid.Store.Tables

set_option autoImplicit false

namespace Signalgrid

inductive Store where
  | log (s : LogStore)
  | tables (s : TableStore)
  | remote (s : RemoteStore)

namespace Store

def name : Store → String
  | .log s => s.name
  | .tables s => s.name
  | .remote s => s.name

def insert (s : Store) (r : Record) : Except StoreFault Unit × Store :=
  match s with
  | .log l =>
      match l.insert r with
      | .ok l' => (.ok (), .log l')
      | .error e => (.error e, .log l)
  | .tables t => (.ok (), .tables (t.insert r))
  | .remote m => let (answer, m') := m.insert r; (answer, .remote m')

def query (s : Store) (q : Query) : Except StoreFault Reply × Store :=
  match s with
  | .log l => (l.query q, s)
  | .tables t => (t.query q, s)
  | .remote m => let (answer, m') := m.query q; (answer, .remote m')

def backing : Backing Store := ⟨insert, query⟩

def log? : Store → Option LogStore
  | .log l => some l
  | .tables _ => none
  | .remote m => some m.log

def setAvailable (s : Store) (available : Bool) : Store :=
  match s with
  | .log l => .log { l with available := available }
  | .tables t => .tables t
  | .remote m => .remote { m with log := { m.log with available := available } }

end Store

end Signalgrid
