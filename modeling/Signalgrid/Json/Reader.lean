import Signalgrid.Json.Token

set_option autoImplicit false

namespace Signalgrid.Json

/-- Under construction, the finished part last first. -/
inductive Frame where
  | items (done : List Json)
  | members (done : List Member) (key : String)

inductive Awaiting where
  | value
  | itemOrClose
  | keyOrClose
  | key (done : List Member)
  | colon (done : List Member) (key : String)
  | commaOrClose (last : Json)

structure Build where
  stack : List Frame
  awaiting : Awaiting

def Build.opened (b : Build) (depth : Nat) (list : Bool) : Option Build :=
  -- An object under construction has no frame before its first key.
  if depth ≤ b.stack.length then none
  else some ⟨b.stack, if list then .itemOrClose else .keyOrClose⟩

def Build.valued (b : Build) (j : Json) : Build := ⟨b.stack, .commaOrClose j⟩

def Build.start (b : Build) (depth : Nat) : Token → Option Build
  | .opening list => b.opened depth list
  | .scalar j => some (b.valued j)
  | .text s => some (b.valued (.str s))
  | _ => none

def Build.step (depth : Nat) (b : Build) (t : Token) : Option Build :=
  match b.awaiting with
  | .value => b.start depth t
  | .itemOrClose =>
      match t with
      | .closing true => some (b.valued (.arr []))
      | _ => Build.start ⟨.items [] :: b.stack, .value⟩ depth t
  | .keyOrClose =>
      match t with
      | .closing false => some (b.valued (.obj []))
      | .text key => some ⟨b.stack, .colon [] key⟩
      | _ => none
  | .key done =>
      match t with
      | .text key => some ⟨b.stack, .colon done key⟩
      | _ => none
  | .colon done key =>
      match t with
      | .colon => some ⟨.members done key :: b.stack, .value⟩
      | _ => none
  | .commaOrClose last =>
      match b.stack, t with
      | .items done :: rest, .comma => some ⟨.items (last :: done) :: rest, .value⟩
      | .items done :: rest, .closing true =>
          some ⟨rest, .commaOrClose (.arr (last :: done).reverse)⟩
      | .members done key :: rest, .comma => some ⟨rest, .key ((key, last) :: done)⟩
      | .members done key :: rest, .closing false =>
          some ⟨rest, .commaOrClose (.obj ((key, last) :: done).reverse)⟩
      | _, _ => none

def Build.finish (b : Build) : Option Json :=
  match b.stack, b.awaiting with
  | [], .commaOrClose j => some j
  | _, _ => none

def ofTokensWithin (depth : Nat) (ts : List Token) : Option Json :=
  (ts.foldlM (Build.step depth) ⟨[], .value⟩).bind Build.finish

def readWithin (depth : Nat) (cs : List Char) : Option Json :=
  (scan cs).bind (ofTokensWithin depth)

def read (cs : List Char) : Option Json := readWithin 127 cs

end Signalgrid.Json
