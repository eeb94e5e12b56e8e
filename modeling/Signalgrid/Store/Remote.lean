import Signalgrid.Store.Host
import Signalgrid.Net.Link

set_option autoImplicit false

namespace Signalgrid

structure Connection where
  unread : Bytes := []
  closed : Bool := false

structure Peer (σ : Type) where
  receive : σ → Bytes → σ × Bytes × Bool

/-- A client that keeps one connection and drops it after any failure. -/
structure RemoteClient where
  address : String
  link : Link
  connection : Option Connection := none

namespace RemoteClient

def await : Nat → Bool → Bytes → Option (Frame.Read (List Char))
  | 0, _, _ => none
  | fuel + 1, closed, stream =>
      if !closed && !stream.contains Frame.newline && stream.length ≤ Frame.maxSize then none
      else
        let r := Frame.takeText stream
        match r.result with
        | .ok (some cs) => if Text.allBlank cs then await fuel closed r.rest else some r
        | _ => some r

def readResponse (c : Connection) : Except StoreFault (Option StoreResponse) × Bytes :=
  match await (c.unread.length + 1) c.closed c.unread with
  | none => (.error .timeout, c.unread)
  | some r =>
      match r.result with
      | .error e => (.error (.protocol e.message), r.rest)
      | .ok none => (.ok none, r.rest)
      | .ok (some cs) =>
          match StoreResponse.decode.ofText cs with
          | .ok response => (.ok (some response), r.rest)
          | .error e => (.error (.protocol (FrameFault.notData e).message), r.rest)

def closedBy (address : String) : StoreFault := .unavailable (address ++ " closed the connection")

def send {σ : Type} (peer : Peer σ) (c : Connection) (s : σ) (request : StoreRequest) : Connection × σ :=
  if c.closed then (c, s)
  else
    let (s, sent, closed) := peer.receive s (Frame.write request.encode)
    (⟨c.unread ++ sent, closed⟩, s)

def exchange {σ : Type} (peer : Peer σ) (address : String) (c : Connection) (s : σ)
    (request : StoreRequest) : Except StoreFault StoreResponse × Connection × σ :=
  let (c, s) := send peer c s request
  let (answer, rest) := readResponse c
  let answer := match answer with
    | .ok (some response) => .ok response
    | .ok none => .error (closedBy address)
    | .error e => .error e
  (answer, { c with unread := rest }, s)

def call {σ : Type} (peer : Peer σ) (client : RemoteClient) (s : σ) (request : StoreRequest) :
    Except StoreFault (Option Reply) × RemoteClient × σ :=
  match client.link with
  | .down reason => (.error (.unavailable (client.address ++ ": " ++ reason)), client, s)
  | .up =>
      match exchange peer client.address (client.connection.getD {}) s request with
      | (.ok (.ok reply), c, s) => (.ok reply, { client with connection := some c }, s)
      | (.ok (.error message), c, s) =>
          (.error (.backend message), { client with connection := some c }, s)
      | (.error e, _, s) => (.error e, { client with connection := none }, s)

def insert {σ : Type} (peer : Peer σ) (client : RemoteClient) (s : σ) (r : Record) :
    Except StoreFault Unit × RemoteClient × σ :=
  let (answer, client, s) := call peer client s (.insert r)
  (answer.map fun _ => (), client, s)

def needReply : Option Reply → Except StoreFault Reply
  | some reply => .ok reply
  | none => .error (.protocol "query answered without a reply")

def query {σ : Type} (peer : Peer σ) (client : RemoteClient) (s : σ) (q : Query) :
    Except StoreFault Reply × RemoteClient × σ :=
  let (answer, client, s) := call peer client s (.query q)
  (answer.bind needReply, client, s)

end RemoteClient

def Host.peer {σ : Type} (b : Backing σ) : Peer σ where
  receive s frame :=
    let served := Host.serveOver b s frame
    (served.store, served.responses.flatMap fun r => Frame.write r.encode,
      (Frame.takeRaw frame).result matches .error .tooLarge)

structure RemoteStore where
  name : String
  client : RemoteClient
  log : LogStore

namespace RemoteStore

def insert (s : RemoteStore) (r : Record) : Except StoreFault Unit × RemoteStore :=
  let (answer, client, log) := s.client.insert (Host.peer LogStore.backing) s.log r
  (answer, { s with client := client, log := log })

def query (s : RemoteStore) (q : Query) : Except StoreFault Reply × RemoteStore :=
  let (answer, client, log) := s.client.query (Host.peer LogStore.backing) s.log q
  (answer, { s with client := client, log := log })

end RemoteStore

end Signalgrid
