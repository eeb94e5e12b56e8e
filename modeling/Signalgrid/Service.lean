import Signalgrid.ControlRoom
import Signalgrid.Settings.Validate

set_option autoImplicit false

namespace Signalgrid

inductive StartFault where
  | settings (fault : SettingsFault)
  | noStore (name path : String)
  | tooDeep
deriving Repr, DecidableEq

def StartFault.message : StartFault → String
  | .settings fault => fault.message
  | .noStore name path => "failed to open " ++ name ++ " store at " ++ path
  | .tooDeep => "capacity overflow"

namespace Service

def isFilePath (path : String) : Bool :=
  let cs := path.toList
  let last := (cs.reverse.takeWhile (· != '/')).reverse
  !cs.contains '\x00' && last != ['.'] && last != ['.', '.'] && (cs.isEmpty || !last.isEmpty)

def openStore (name : String) (backend : Backend) (path : String) : Except StartFault Store :=
  match backend with
  | .memory => .ok (.log { name := name })
  | .tables => if isFilePath path then .ok (.tables { name := name }) else .error (.noStore name path)

def startWith (s : Settings) (replica primary : Store) (now : Instant) : Except StartFault ControlRoom := do
  s.validate.mapError .settings
  match ControlRoom.start? s replica primary now with
  | some room => .ok room
  | none => .error .tooDeep

def start (s : Settings) (link : Link) (now : Instant) : Except StartFault ControlRoom := do
  s.validate.mapError .settings
  let replica ← openStore "replica" s.replica.backend s.replica.path
  let client : RemoteClient := { address := s.primary.address, link := link }
  startWith s replica (.remote { name := "primary", client := client, log := { name := "primary" } }) now

end Service

end Signalgrid
