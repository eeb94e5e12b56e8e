import Signalgrid.Proofs.Json.Roundtrip
import Signalgrid.Proofs.Time.Texts
import Signalgrid.Record.Basic

set_option autoImplicit false

namespace Signalgrid

open Decode

theorem Instant.decode_encode (s : Source) (t : Instant) : instant s t.encode = .ok t := by
  simp [instant, encode, ofRelaxed_toData, Except.mapError]

theorem Color.decode_encode (s : Source) (c : Color) : decode s c.encode = .ok c := by
  cases c <;> rfl

namespace Decode

theorem string_str (s : Source) (text : String) : string s (.str text) = .ok text := rfl

theorem option_instant (s : Source) (t : Option Instant) :
    option instant s (Json.ofOption Instant.encode t) = .ok t := by
  cases t with
  | none => rfl
  | some t =>
    have read : option instant s (Json.ofOption Instant.encode (some t)) =
        (instant s t.encode).map some := rfl
    rw [read, Instant.decode_encode]
    rfl

end Decode

namespace Transition

theorem decode_encode (s : Source) (t : Transition) : decode s t.encode = .ok t := by
  simp [decode, encode, members, record, memberFault, faultOf, Fields.of, Fields.field, Fields.needs,
    Fields.mayHave, List.lookup_cons, bind, Except.bind, string_str, Color.decode_encode,
    Instant.decode_encode, option_instant]

theorem encode_legible (t : Transition) : t.encode.Legible := by
  cases timer : t.timer <;>
    simp [encode, members, Json.Legible, Json.LegibleMembers, Color.encode, Json.ofOption, Instant.encode,
      timer]

theorem encode_depth (t : Transition) : t.encode.depth = 1 := by
  cases timer : t.timer <;>
    simp [encode, members, Json.depth, Json.depthOfMembers, Color.encode, Json.ofOption, Instant.encode,
      timer]

theorem ofText_compact (t : Transition) : decode.ofText t.encode.compact.toList = .ok t := by
  have read := Json.read_compact t.encode_legible (by rw [t.encode_depth]; decide)
  simp [Decoder.ofText, read, decode_encode, Except.mapError]

end Transition

end Signalgrid
