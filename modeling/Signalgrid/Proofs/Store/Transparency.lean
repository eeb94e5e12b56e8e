import Signalgrid.Proofs.Store.Codecs
import Signalgrid.Proofs.Store.Queries
import Signalgrid.Store.Basic

set_option autoImplicit false

namespace Signalgrid

namespace Frame

structure Carries (j : Json) : Prop where
  short : (write j).length ≤ maxSize
  legible : Json.read j.compact.toList = some j

theorem Carries.of_legible {j : Json} (legible : j.Legible) (shallow : j.depth ≤ 127)
    (short : ((j.compact ++ "\n").toList.flatMap String.utf8EncodeChar).length ≤ maxSize) : Carries j :=
  ⟨by rwa [write, Text.encodeUtf8_eq], Json.read_compact legible shallow⟩

theorem compact_obj_filled (ms : List Json.Member) : Text.allBlank (Json.obj ms).compact.toList = false := by
  rw [Json.compact, Json.writeTo, Json.writeMembers_eq]
  simp [Text.allBlank, Text.isBlank]

end Frame

inductive StoreEvent (σ : Type) where
  | call (request : StoreRequest)
  | change (f : σ → σ)

inductive StoreAnswer where
  | inserted (answer : Except StoreFault Unit)
  | replied (answer : Except StoreFault Reply)

def StoreAnswer.afar : StoreAnswer → StoreAnswer
  | .inserted answer => .inserted (answer.mapError fun e => .backend e.message)
  | .replied answer => .replied (answer.mapError fun e => .backend e.message)

namespace Backing

variable {σ : Type}

def ask (b : Backing σ) (s : σ) : StoreRequest → StoreAnswer × σ
  | .insert r => let (answer, s') := b.insert s r; (.inserted answer, s')
  | .query q => let (answer, s') := b.query s q; (.replied answer, s')

def run (b : Backing σ) : σ → List (StoreEvent σ) → List StoreAnswer × σ
  | s, [] => ([], s)
  | s, .change f :: rest => b.run (f s) rest
  | s, .call request :: rest =>
      let (answer, s') := b.ask s request
      let (answers, last) := b.run s' rest
      (answer :: answers, last)

def exchanges (b : Backing σ) : σ → List (StoreEvent σ) → List (StoreRequest × StoreResponse)
  | _, [] => []
  | s, .change f :: rest => b.exchanges (f s) rest
  | s, .call request :: rest =>
      let (response, s') := b.respond s request
      (request, response) :: b.exchanges s' rest

def remote (peer : Peer σ) : Backing (RemoteClient × σ) where
  insert | (client, s), r => client.insert peer s r
  query | (client, s), q => client.query peer s q

end Backing

def StoreEvent.afar {σ : Type} : StoreEvent σ → StoreEvent (RemoteClient × σ)
  | .call request => .call request
  | .change f => .change fun (client, s) => (client, f s)

structure Carried (request : StoreRequest) (response : StoreResponse) : Prop where
  request_fits : request.Fits
  response_fits : response.Fits
  there : Frame.Carries request.encode
  back : Frame.Carries response.encode

theorem StoreResponse.encode_filled (response : StoreResponse) :
    Text.allBlank response.encode.compact.toList = false := by
  cases response <;> exact Frame.compact_obj_filled _

namespace RemoteClient

structure Ready (client : RemoteClient) : Prop where
  up : client.link = .up
  idle : client.connection.getD {} = {}

variable {σ : Type} {b : Backing σ} {s : σ} {client : RemoteClient} {request : StoreRequest}

theorem await_write {j : Json} (filled : Text.allBlank j.compact.toList = false) (fuel : Nat) :
    await (fuel + 1) false (Frame.write j) = some (Frame.takeText (Frame.write j)) := by
  have ended : (Frame.write j).contains Frame.newline = true := by simp [Frame.write_eq]
  simp only [await, ended, Frame.takeText_write]
  split_ifs <;> simp_all

theorem readResponse_write {response : StoreResponse} (fits : response.Fits)
    (back : Frame.Carries response.encode) :
    readResponse ⟨Frame.write response.encode, false⟩ = (.ok (some response), []) := by
  simp only [readResponse, await_write (response.encode_filled), Frame.takeText_write,
    if_neg (Nat.not_lt.mpr back.short), (StoreResponse.reads fits).ofText back.legible]

theorem receive_write (carried : Carried request (b.respond s request).1) :
    (Host.peer b).receive s (Frame.write request.encode) =
      ((b.respond s request).2, Frame.write (b.respond s request).1.encode, false) := by
  have filled : Text.allBlank request.encode.compact.toList = false := by
    cases request <;> exact Frame.compact_obj_filled _
  have short := Nat.not_lt.mpr carried.there.short
  have taken := Frame.takeRaw_write request.encode []
  have read := (StoreRequest.reads carried.request_fits).ofText carried.there.legible
  rw [List.append_nil, if_neg short] at taken
  simp [Host.peer, Host.serveOver_write b s filled, if_neg short, read, taken]

theorem exchange_carried (carried : Carried request (b.respond s request).1) (address : String) :
    exchange (Host.peer b) address {} s request =
      (.ok (b.respond s request).1, {}, (b.respond s request).2) := by
  have sent : send (Host.peer b) {} s request =
      (⟨Frame.write (b.respond s request).1.encode, false⟩, (b.respond s request).2) := by
    simp [send, receive_write carried]
  simp only [exchange, sent, readResponse_write carried.response_fits carried.back]

theorem ask_carried (ready : client.Ready) (carried : Carried request (b.respond s request).1) :
    ∃ client', client'.Ready ∧ (Backing.remote (Host.peer b)).ask (client, s) request =
      ((b.ask s request).1.afar, client', (b.ask s request).2) := by
  have exchanged := exchange_carried carried client.address
  refine ⟨{ client with connection := some {} }, ⟨ready.up, rfl⟩, ?_⟩
  cases request with
  | insert r =>
    simp only [Backing.respond] at exchanged
    cases answered : (b.insert s r).1 with
    | ok u =>
      simp [Backing.ask, Backing.remote, insert, call, ready.up, ready.idle, exchanged, answered,
        StoreResponse.ofInsert, StoreAnswer.afar, Except.map, Except.mapError]
    | error e =>
      simp [Backing.ask, Backing.remote, insert, call, ready.up, ready.idle, exchanged, answered,
        StoreResponse.ofInsert, StoreAnswer.afar, Except.map, Except.mapError]
  | query q =>
    simp only [Backing.respond] at exchanged
    cases answered : (b.query s q).1 with
    | ok reply =>
      simp [Backing.ask, Backing.remote, query, call, ready.up, ready.idle, exchanged, answered,
        StoreResponse.ofQuery, StoreAnswer.afar, needReply, Except.bind, Except.mapError]
    | error e =>
      simp [Backing.ask, Backing.remote, query, call, ready.up, ready.idle, exchanged, answered,
        StoreResponse.ofQuery, StoreAnswer.afar, Except.bind, Except.mapError]

end RemoteClient

theorem Backing.ask_respond {σ : Type} (b : Backing σ) (s : σ) (request : StoreRequest) :
    (b.ask s request).2 = (b.respond s request).2 := by
  cases request <;> rfl

theorem RemoteClient.run_carried {σ : Type} {b : Backing σ} {s : σ} {client : RemoteClient}
    {events : List (StoreEvent σ)} (ready : client.Ready)
    (carried : ∀ x ∈ b.exchanges s events, Carried x.1 x.2) :
    ∃ client', (Backing.remote (Host.peer b)).run (client, s) (events.map .afar) =
      ((b.run s events).1.map .afar, client', (b.run s events).2) := by
  induction events generalizing s client with
  | nil => exact ⟨client, rfl⟩
  | cons event rest ih =>
    cases event with
    | change f => exact ih ready carried
    | call request =>
      simp only [Backing.exchanges, List.mem_cons, forall_eq_or_imp] at carried
      -- An exchange that is carried leaves the client ready for the next one.
      obtain ⟨client', ready', asked⟩ := ask_carried ready carried.1
      rw [← Backing.ask_respond] at carried
      obtain ⟨last, ran⟩ := ih ready' carried.2
      refine ⟨last, ?_⟩
      simp only [List.map_cons, StoreEvent.afar, Backing.run, asked, ran]

/-- Calls through a client come to what they would come to on the store itself. -/
theorem Backing.remote_transparent {σ : Type} (b : Backing σ) (s : σ) (client : RemoteClient)
    (events : List (StoreEvent σ)) (up : client.link = .up) (fresh : client.connection = none)
    (carried : ∀ x ∈ b.exchanges s events, Carried x.1 x.2) :
    ((remote (Host.peer b)).run (client, s) (events.map .afar)).1 = (b.run s events).1.map .afar ∧
    ((remote (Host.peer b)).run (client, s) (events.map .afar)).2.2 = (b.run s events).2 := by
  have ready : client.Ready := ⟨up, by rw [fresh]; rfl⟩
  obtain ⟨client', ran⟩ := RemoteClient.run_carried ready carried
  rw [ran]
  exact ⟨rfl, rfl⟩

theorem Backing.remote_transparent_through_outage :
    let change : Transition := ⟨"INT-A1", .red, .green, "manual", none, .epoch⟩
    let query : StoreRequest := .query (.lastChange "INT-A1")
    let events : List (StoreEvent Store) :=
      [.call (.insert (.change change)), .change (·.setAvailable false), .call query,
        .change (·.setAvailable true), .call query]
    ((remote (Host.peer Store.backing)).run
        (⟨"store:7001", .up, none⟩, .log { name := "primary" }) (events.map .afar)).1 =
      [.inserted (.ok ()), .replied (.error (.backend "store unavailable: primary is offline")),
        .replied (.ok (.lastChange (some change)))] := by
  intro change query events
  have reply_fits : (StoreResponse.ok (some (.lastChange (some change)))).Fits := by
    rintro _ ⟨⟩
    trivial
  have insert_carries : Frame.Carries (StoreRequest.insert (.change change)).encode :=
    .of_legible ⟨trivial, ⟨trivial, change.encode_legible⟩, trivial⟩ (by decide) (by decide +kernel)
  have query_carries : Frame.Carries query.encode :=
    .of_legible ⟨trivial, ⟨trivial, trivial, trivial⟩, trivial⟩ (by decide) (by decide +kernel)
  have done_carries : Frame.Carries (StoreResponse.ok none).encode :=
    .of_legible ⟨trivial, trivial, trivial⟩ (by decide) (by decide +kernel)
  have offline_carries :
      Frame.Carries (StoreResponse.error "store unavailable: primary is offline").encode :=
    .of_legible ⟨trivial, trivial, trivial⟩ (by decide) (by decide +kernel)
  have reply_carries : Frame.Carries (StoreResponse.ok (some (.lastChange (some change)))).encode :=
    .of_legible ⟨trivial, ⟨trivial, change.encode_legible, trivial⟩, trivial⟩ (by decide) (by decide +kernel)
  refine (remote_transparent Store.backing _ _ events rfl rfl ?_).1
  have inserted : Carried (.insert (.change change)) (.ok none) :=
    ⟨trivial, fun _ => nofun, insert_carries, done_carries⟩
  have refused : Carried query (.error "store unavailable: primary is offline") :=
    ⟨trivial, trivial, query_carries, offline_carries⟩
  have answered : Carried query (.ok (some (.lastChange (some change)))) :=
    ⟨trivial, reply_fits, query_carries, reply_carries⟩
  intro x listed
  rcases listed with _ | ⟨_, _ | ⟨_, _ | ⟨_, ⟨⟩⟩⟩⟩
  · exact inserted
  · exact refused
  · exact answered

end Signalgrid
