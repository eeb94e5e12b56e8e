import Signalgrid.Text.Utf8
import Signalgrid.Text.Blank
import Signalgrid.Json.Decode
import Signalgrid.Json.Writer

set_option autoImplicit false

namespace Signalgrid

inductive FrameFault where
  | tooLarge
  | notText (fault : Text.BadUtf8)
  | notData (fault : ReadFault)
deriving Repr, DecidableEq

namespace FrameFault

def reason : FrameFault → String
  | .tooLarge => "frame exceeds 1048576 bytes"
  | .notText fault => "line is not UTF-8: " ++ fault.message
  | .notData fault => fault.message

def message : FrameFault → String
  | .tooLarge => reason .tooLarge
  | fault => "invalid frame: " ++ fault.reason

end FrameFault

namespace Frame

def maxSize : Nat := 1048576

def newline : UInt8 := 10
def carriageReturn : UInt8 := 13

def stripReturns (line : Bytes) : Bytes := (line.reverse.dropWhile (· == carriageReturn)).reverse

structure Read (α : Type) where
  result : Except FrameFault (Option α)
  rest : Bytes

/-- A frame that is too long is given up one octet past the limit. -/
def takeRaw (stream : Bytes) : Read Bytes :=
  match stream with
  | [] => ⟨.ok none, []⟩
  | _ =>
    let body := stream.takeWhile (· != newline)
    let after := stream.dropWhile (· != newline)
    let size := body.length + if after.isEmpty then 0 else 1
    if maxSize < size then ⟨.error .tooLarge, stream.drop (maxSize + 1)⟩
    else ⟨.ok (some (stripReturns body)), after.drop 1⟩

def asText (raw : Bytes) : Except FrameFault (List Char) := (Text.decodeUtf8 raw).mapError .notText

def takeText (stream : Bytes) : Read (List Char) :=
  let r := takeRaw stream
  match r.result with
  | .ok (some raw) => ⟨(asText raw).map some, r.rest⟩
  | .ok none => ⟨.ok none, r.rest⟩
  | .error e => ⟨.error e, r.rest⟩

/-- Each turn takes at least one octet off the stream. -/
def takeFilled : Nat → Bytes → Read (List Char)
  | 0, stream => ⟨.ok none, stream⟩
  | fuel + 1, stream =>
      let r := takeText stream
      match r.result with
      | .ok (some cs) => if Text.allBlank cs then takeFilled fuel r.rest else r
      | _ => r

def takeData {α : Type} (d : Decoder α) (stream : Bytes) : Read α :=
  let r := takeFilled (stream.length + 1) stream
  match r.result with
  | .ok (some cs) => ⟨((d.ofText cs).mapError .notData).map some, r.rest⟩
  | .ok none => ⟨.ok none, r.rest⟩
  | .error e => ⟨.error e, r.rest⟩

def write (j : Json) : Bytes := Text.encodeUtf8 (j.compact ++ "\n")

end Frame

end Signalgrid
