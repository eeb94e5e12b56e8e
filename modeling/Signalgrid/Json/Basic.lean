set_option autoImplicit false

namespace Signalgrid

/-- Members keep their order and may repeat a key. -/
inductive Json where
  | null
  | bool (b : Bool)
  | int (n : Int)
  | float (x : Float)
  | str (s : String)
  | arr (items : List Json)
  | obj (members : List (String × Json))
deriving Inhabited, Repr

namespace Json

abbrev Member := String × Json

def putMember (m : Member) : List Member → List Member
  | [] => [m]
  | n :: rest =>
      if m.1 = n.1 then m :: rest
      else if m.1 < n.1 then m :: n :: rest
      else n :: putMember m rest

def sortMembers (ms : List Member) : List Member :=
  ms.foldl (fun sorted m => putMember m sorted) []

mutual

def canonical : Json → Json
  | .arr items => .arr (canonicalItems items)
  | .obj members => .obj (sortMembers (canonicalMembers members))
  | j => j

def canonicalItems : List Json → List Json
  | [] => []
  | j :: rest => canonical j :: canonicalItems rest

def canonicalMembers : List Member → List Member
  | [] => []
  | (k, j) :: rest => (k, canonical j) :: canonicalMembers rest

end

def get? (j : Json) (key : String) : Option Json :=
  match j with
  | .obj members => (members.reverse.find? fun m => m.1 == key).map Prod.snd
  | _ => none

def ofOption {α : Type} (f : α → Json) : Option α → Json
  | none => .null
  | some a => f a

def strings (ss : List String) : Json := .arr (ss.map .str)

def nat (n : Nat) : Json := .int n

def ofFloat (x : Float) : Json := if x.isFinite then .float x else .null

end Json

end Signalgrid
