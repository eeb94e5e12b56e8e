import Signalgrid.Store.Wire
import Signalgrid.Store.Log
import Signalgrid.Net.Frame

set_option autoImplicit false

namespace Signalgrid

structure Backing (σ : Type) where
  insert : σ → Record → Except StoreFault Unit × σ
  query : σ → Query → Except StoreFault Reply × σ

def LogStore.backing : Backing LogStore where
  insert s r :=
    match s.insert r with
    | .ok s' => (.ok (), s')
    | .error e => (.error e, s)
  query s q := (s.query q, s)

namespace Backing

def respond {σ : Type} (b : Backing σ) (s : σ) : StoreRequest → StoreResponse × σ
  | .insert r => let (answer, s') := b.insert s r; (.ofInsert answer, s')
  | .query q => let (answer, s') := b.query s q; (.ofQuery answer, s')

end Backing

namespace Host

structure Served (σ : Type) where
  responses : List StoreResponse
  store : σ

def serveWithin {σ : Type} (b : Backing σ) : Nat → σ → Bytes → List StoreResponse → Served σ
  | 0, s, _, done => ⟨done.reverse, s⟩
  | fuel + 1, s, stream, done =>
      let r := Frame.takeData StoreRequest.decode stream
      match r.result with
      | .ok (some request) =>
          let (response, s') := b.respond s request
          serveWithin b fuel s' r.rest (response :: done)
      | .ok none => ⟨done.reverse, s⟩
      | .error .tooLarge => ⟨done.reverse, s⟩
      | .error e => serveWithin b fuel s r.rest (.error e.reason :: done)

def serveOver {σ : Type} (b : Backing σ) (s : σ) (stream : Bytes) : Served σ :=
  serveWithin b (stream.length + 1) s stream []

def serve (s : LogStore) (stream : Bytes) : Served LogStore := serveOver LogStore.backing s stream

end Host

end Signalgrid
