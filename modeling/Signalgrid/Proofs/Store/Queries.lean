import Signalgrid.Store.Basic
import Signalgrid.Proofs.Json.Decode
import Signalgrid.Proofs.Json.Reader
import Signalgrid.Proofs.Net.Frames

set_option autoImplicit false

namespace Signalgrid

namespace StoreRequest

theorem decode_query {others : List Json.Member} {request : StoreRequest}
    (decoded : decode .text (.obj (("op", .str "query") :: others)) = .ok request) :
    ∃ q, request = .query q := by
  obtain ⟨⟨d, members⟩, split, read⟩ := bind_ok decoded
  obtain rfl := Decode.splitTag_found split
  simp only [Decode.record] at read
  split at read
  · cases read
  · obtain ⟨wrap, built, read⟩ := bind_ok read
    cases built
    dsimp only at read
    split at read
    · obtain ⟨q, _, read⟩ := bind_ok read
      cases read
      exact ⟨q, rfl⟩
    · cases read

def front : List Char := ['\x7b', '"', 'o', 'p', '"', ':', '"', 'q', 'u', 'e', 'r', 'y', '"', ',']

theorem query_text (q : Query) : ∃ rest, (query q).encode.compact.toList = front ++ rest := by
  have key : Json.quoted "op" = "\"op\"" := by decide
  have value : Json.quoted "query" = "\"query\"" := by decide
  refine ⟨(Json.writeTo (Json.quoted "query" ++ ":") q.encode ++ "\x7d").toList, ?_⟩
  simp only [encode, Json.compact, Json.writeTo, Json.writeMembers, Json.scalarText]
  rw [Json.writeTo_eq, Json.writeTo_eq (Json.quoted "query" ++ ":"), key, value]
  simp [front]

theorem read_query {q : Query} {request : StoreRequest}
    (decoded : decode.ofText (query q).encode.compact.toList = .ok request) :
    ∃ q', request = .query q' := by
  obtain ⟨rest, text⟩ := query_text q
  rw [text, Decoder.ofText] at decoded
  cases found : Json.read (front ++ rest) with
  | none => simp [found] at decoded
  | some j =>
    obtain ⟨others, rfl⟩ := @Json.read_front front rest "op" "query" j rfl found
    simp only [found] at decoded
    cases read : decode .text (.obj (("op", .str "query") :: others)) with
    | error e => simp [read, Except.mapError] at decoded
    | ok r =>
      rw [read] at decoded
      obtain ⟨q', rfl⟩ := decode_query read
      cases decoded
      exact ⟨q', rfl⟩

end StoreRequest

namespace Host

section

variable {σ : Type} (b : Backing σ) (s : σ)

theorem serveWithin_nil (fuel : Nat) (done : List StoreResponse) :
    serveWithin b fuel s [] done = ⟨done.reverse, s⟩ := by
  cases fuel <;> rfl

theorem serveOver_write {j : Json} (filled : Text.allBlank j.compact.toList = false) :
    serveOver b s (Frame.write j) =
      if Frame.maxSize < (Frame.write j).length then ⟨[], s⟩
      else
        match StoreRequest.decode.ofText j.compact.toList with
        | .ok request => ⟨[(b.respond s request).1], (b.respond s request).2⟩
        | .error e => ⟨[.error (FrameFault.notData e).reason], s⟩ := by
  rw [serveOver, serveWithin]
  simp only [Frame.takeData, Frame.takeFilled, Frame.takeText_write]
  split_ifs with long
  · rfl
  · simp only [filled, Bool.false_eq_true, if_false]
    cases StoreRequest.decode.ofText j.compact.toList with
    | error e => exact serveWithin_nil ..
    | ok request => exact serveWithin_nil ..

end

theorem serve_query (s : LogStore) (q : Query) :
    (serve s (Frame.write (StoreRequest.query q).encode)).store = s := by
  obtain ⟨rest, text⟩ := StoreRequest.query_text q
  have filled : Text.allBlank (StoreRequest.query q).encode.compact.toList = false := by
    rw [text]
    rfl
  rw [serve, serveOver_write _ s filled]
  split_ifs
  · rfl
  · split
    next request decoded =>
      obtain ⟨q', rfl⟩ := StoreRequest.read_query decoded
      rfl
    next => rfl

end Host

namespace RemoteClient

def unconnected (c : RemoteClient) : RemoteClient := { c with connection := none }

variable (client : RemoteClient) (s : LogStore) (q : Query)

theorem exchange_query (address : String) (c : Connection) :
    (exchange (Host.peer LogStore.backing) address c s (.query q)).2.2 = s := by
  have sent : (send (Host.peer LogStore.backing) c s (.query q)).2 = s := by
    unfold send
    split
    · rfl
    · exact Host.serve_query s q
  exact sent

theorem call_query :
    (call (Host.peer LogStore.backing) client s (.query q)).2.1.unconnected = client.unconnected ∧
      (call (Host.peer LogStore.backing) client s (.query q)).2.2 = s := by
  have unchanged := exchange_query s q client.address (client.connection.getD {})
  unfold call
  split
  · exact ⟨rfl, rfl⟩
  · split
    all_goals
      next exchanged =>
        rw [exchanged] at unchanged
        exact ⟨rfl, unchanged⟩

end RemoteClient

namespace Store

def kept : Store → Store
  | .remote m => .remote { m with client := m.client.unconnected }
  | s => s

theorem query_kept (s : Store) (q : Query) : (s.query q).2.kept = s.kept := by
  cases s with
  | log l => rfl
  | tables t => rfl
  | remote m =>
    obtain ⟨client, log⟩ := m.client.call_query m.log q
    obtain ⟨name, c, l⟩ := m
    simp only [query, RemoteStore.query, RemoteClient.query, kept, client, log]

end Store

end Signalgrid
