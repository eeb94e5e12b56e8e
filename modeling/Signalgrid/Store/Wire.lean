import Signalgrid.Store.Query

set_option autoImplicit false

namespace Signalgrid

inductive StoreRequest where
  | insert (r : Record)
  | query (q : Query)

inductive StoreResponse where
  | ok (reply : Option Reply)
  | error (message : String)

open Decode Json

namespace StoreRequest

def encode : StoreRequest → Json
  | .insert r => .obj [("op", .str "insert"), ("record", r.encode)]
  | .query q => .obj [("op", .str "query"), ("query", q.encode)]

def decode : Decoder StoreRequest :=
  tagged "op" "StoreRequest"
    [("insert",
      record "struct variant StoreRequest::Insert"
        (Fields.of StoreRequest.insert |>.needs "record" Record.decode)),
     ("query",
      record "struct variant StoreRequest::Query"
        (Fields.of StoreRequest.query |>.needs "query" Query.decode))]

end StoreRequest

namespace StoreResponse

def encode : StoreResponse → Json
  | .ok reply => .obj [("status", .str "ok"), ("reply", ofOption Reply.encode reply)]
  | .error message => .obj [("status", .str "error"), ("message", .str message)]

def decode : Decoder StoreResponse :=
  tagged "status" "StoreResponse"
    [("ok",
      record "struct variant StoreResponse::Ok" (Fields.of StoreResponse.ok |>.orNone "reply" Reply.decode)),
     ("error",
      record "struct variant StoreResponse::Error"
        (Fields.of StoreResponse.error |>.needs "message" string))]

def ofInsert : Except StoreFault Unit → StoreResponse
  | .ok _ => .ok none
  | .error e => .error e.message

def ofQuery : Except StoreFault Reply → StoreResponse
  | .ok reply => .ok (some reply)
  | .error e => .error e.message

end StoreResponse

end Signalgrid
