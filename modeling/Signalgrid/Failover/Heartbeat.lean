import Signalgrid.Net.Frame
import Signalgrid.Net.Link
import Signalgrid.Text.Quoted

set_option autoImplicit false

namespace Signalgrid

inductive ProbeFault where
  | unreachable (text : String)
  | timeout
  | badText (fault : Text.BadUtf8)
  | unexpectedReply (reply : String)
deriving Repr, DecidableEq

def ProbeFault.message : ProbeFault → String
  | .unreachable text => "probe i/o error: " ++ text
  | .timeout => "probe timed out"
  | .badText _ => "probe i/o error: stream did not contain valid UTF-8"
  | .unexpectedReply reply => "unexpected probe reply: " ++ Text.quoted reply

namespace Heartbeat

def ping : List Char := ['P', 'I', 'N', 'G']
def pong : List Char := ['P', 'O', 'N', 'G']

def pingFrame : Bytes := Text.encodeUtf8 "PING\n"
def pongFrame : Bytes := Text.encodeUtf8 "PONG\n"

def respondWithin : Nat → Bytes → Bytes → Bytes
  | 0, _, out => out
  | fuel + 1, stream, out =>
      let r := Frame.takeText stream
      match r.result with
      | .ok (some cs) =>
          respondWithin fuel r.rest (if Text.trim cs = ping then out ++ pongFrame else out)
      | _ => out

def respond (stream : Bytes) : Bytes := respondWithin (stream.length + 1) stream []

def judge (answer : Option Bytes) : Except ProbeFault Unit :=
  match answer with
  | none => .error .timeout
  | some bytes =>
    match Text.decodeUtf8 bytes with
    | .error e => .error (.badText e)
    | .ok cs =>
      if Text.trim cs = pong then .ok () else .error (.unexpectedReply (String.ofList (Text.trim cs)))

def firstLine (bytes : Bytes) (closed : Bool) : Option Bytes :=
  let body := bytes.takeWhile (· != Frame.newline)
  if body.length < bytes.length then some (body ++ [Frame.newline])
  else if closed then some bytes
  else none

def probe (link : Link) (answer : Bytes) (closed : Bool) : Except ProbeFault Unit :=
  match link with
  | .down reason => .error (.unreachable reason)
  | .up => judge (firstLine answer closed)

end Heartbeat

end Signalgrid
