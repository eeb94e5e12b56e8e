import Signalgrid.CommandLine.Arguments
import Signalgrid.Gateway.Reply
import Signalgrid.Json.Writer

set_option autoImplicit false

namespace Signalgrid.CommandLine

structure Report where
  printed : String
  complaint : Option String
deriving Repr, DecidableEq

def isOk (response : Json) : Bool :=
  match response.get? "status" with
  | some (.str "ok") => true
  | _ => false

def report (compact : Bool) (request : Request) (response : Json) : Report :=
  let response := response.canonical
  { printed := (if compact then response.compact else response.pretty) ++ "\n"
    complaint := if isOk response then none else some ("gateway rejected " ++ request.name) }

end Signalgrid.CommandLine
