import Signalgrid.Proofs.Net.Splitting
import Signalgrid.Proofs.Store.Transparency
import Signalgrid.Gateway.Reply

set_option autoImplicit false

namespace Signalgrid

namespace Frame

theorem stripReturns_concat (front : Bytes) (b : UInt8) :
    stripReturns (front ++ [b]) = if b = carriageReturn then stripReturns front else front ++ [b] := by
  rw [stripReturns, stripReturns, List.reverse_concat, List.dropWhile_cons]
  by_cases same : b = carriageReturn
  · rw [if_pos same, if_pos (by simpa using same)]
  · rw [if_neg same, if_neg (by simpa using same), List.reverse_cons, List.reverse_reverse]

-- By induction from the end of the text, since the returns are taken off there.
theorem stripReturns_text (cs : List Char) :
    ∃ front, front <+: cs ∧
      stripReturns (cs.flatMap String.utf8EncodeChar) = front.flatMap String.utf8EncodeChar := by
  induction cs using List.reverseRecOn with
  | nil => exact ⟨[], List.prefix_rfl, rfl⟩
  | append_singleton cs c ih =>
    rw [List.flatMap_append, List.flatMap_singleton]
    by_cases same : c = '\r'
    · obtain ⟨front, within, stripped⟩ := ih
      have octets : String.utf8EncodeChar c = [carriageReturn] := by
        rw [same]
        decide
      rw [octets, stripReturns_concat, if_pos rfl]
      exact ⟨front, within.trans (List.prefix_append cs [c]), stripped⟩
    · obtain ⟨octets, last, split⟩ :=
        List.eq_nil_or_concat' (String.utf8EncodeChar c) |>.resolve_left String.utf8EncodeChar_ne_nil
      have other : last ≠ carriageReturn := by
        rintro rfl
        have code := (Text.utf8EncodeChar_low (c := c) (b := carriageReturn) (by simp [split])
          (by decide)).2
        exact same (Char.toNat_inj.mp code)
      refine ⟨cs ++ [c], List.prefix_rfl, ?_⟩
      rw [split, ← List.append_assoc, stripReturns_concat, if_neg other, List.append_assoc, ← split]
      simp

inductive Sent (α : Type) where
  | value (a : α)
  | blank (text : List Char) (blank : Text.allBlank text = true) (line : '\n' ∉ text)

theorem content_text {text : List Char} (one : newline ∉ Text.encodeUtf8 (String.ofList text))
    (fits : (Text.encodeUtf8 (String.ofList text) ++ [newline]).length ≤ maxSize) :
    ∃ front, front <+: text ∧
      content (Text.encodeUtf8 (String.ofList text) ++ [newline]) = .ok front := by
  obtain ⟨front, within, stripped⟩ := stripReturns_text text
  refine ⟨front, within, ?_⟩
  rw [content, if_neg (Nat.not_lt.mpr fits), takeWhile_line one, asText_ok, Text.encodeUtf8_eq,
    Text.encodeUtf8_eq, String.toList_ofList, String.toList_ofList, stripped]

theorem content_write {j : Json} (fits : (write j).length ≤ maxSize) :
    content (write j) = .ok j.compact.toList := by
  have one := newline_notMem_line j
  rw [content, if_neg (Nat.not_lt.mpr fits), write_eq, takeWhile_line one, stripReturns_line, asText_ok,
    String.ofList_toList]
  rfl

theorem compact_length_lt (j : Json) : j.compact.toList.length < (write j).length := by
  have octets : ∀ cs : List Char, cs.length ≤ (cs.flatMap String.utf8EncodeChar).length := by
    intro cs
    induction cs with
    | nil => exact Nat.le_refl 0
    | cons c rest ih =>
      have octet : 0 < (String.utf8EncodeChar c).length :=
        List.length_pos_iff.mpr String.utf8EncodeChar_ne_nil
      rw [List.flatMap_cons, List.length_append, List.length_cons]
      omega
  rw [write_eq, line, Text.encodeUtf8_eq, List.length_append]
  exact Nat.lt_succ_of_le (octets _)

namespace Sent

variable {α : Type}

def value? : Sent α → Option α
  | .value a => some a
  | .blank .. => none

def values (sent : List (Sent α)) : List α := sent.filterMap value?

section

variable (encode : α → Json)

def octets : Sent α → Bytes
  | .value a => write (encode a)
  | .blank text .. => Text.encodeUtf8 (String.ofList text) ++ [newline]

def Fits (item : Sent α) : Prop := (item.octets encode).length ≤ maxSize

def stream (sent : List (Sent α)) : Bytes := sent.flatMap (octets encode)

end

variable {encode : α → Json} {d : Decoder α}

theorem newline_notMem_blank {text : List Char} (one : '\n' ∉ text) :
    newline ∉ Text.encodeUtf8 (String.ofList text) := by
  intro listed
  rw [Text.encodeUtf8_eq, String.toList_ofList] at listed
  obtain ⟨c, there, among⟩ := List.mem_flatMap.mp listed
  have code : c.toNat = '\n'.toNat := (Text.utf8EncodeChar_low among (by decide)).2
  exact one (Char.toNat_inj.mp code ▸ there)

theorem fits_blank {text : List Char} {blank : Text.allBlank text = true} {one : '\n' ∉ text}
    (short : (text.flatMap String.utf8EncodeChar).length < maxSize) :
    (Sent.blank text blank one).Fits encode := by
  have octets : Text.encodeUtf8 (String.ofList text) = text.flatMap String.utf8EncodeChar := by
    rw [Text.encodeUtf8_eq, String.toList_ofList]
  show (Text.encodeUtf8 (String.ofList text) ++ [newline]).length ≤ maxSize
  rw [octets, List.length_append]
  exact short

theorem octets_line (encode : α → Json) (item : Sent α) :
    ∃ line, newline ∉ line ∧ item.octets encode = line ++ [newline] := by
  cases item with
  | value a => exact ⟨line (encode a), newline_notMem_line _, write_eq _⟩
  | blank text blank one => exact ⟨_, newline_notMem_blank one, rfl⟩

theorem lines_stream (sent : List (Sent α)) : lines (stream encode sent) = sent.map (octets encode) := by
  induction sent with
  | nil => rfl
  | cons item rest ih =>
    obtain ⟨line, one, same⟩ := octets_line encode item
    rw [stream, List.flatMap_cons, same, List.append_assoc, List.singleton_append, lines_append one,
      ← same]
    exact congrArg _ ih

theorem filled_value {a : α} (back : d.ofText (encode a).compact.toList = .ok a)
    (fits : (Sent.value a).Fits encode) : filled ((Sent.value a).octets encode) = true := by
  rw [octets, filled_text (content_write fits)]
  cases blank : Text.allBlank (encode a).compact.toList with
  | false => rfl
  | true =>
    rw [Decoder.ofText, Json.read_blank blank] at back
    cases back

theorem filled_blank {text : List Char} (blank : Text.allBlank text = true) (one : '\n' ∉ text)
    (fits : (Sent.blank text blank one).Fits encode) :
    filled ((Sent.blank text blank one).octets encode) = false := by
  obtain ⟨front, within, said⟩ := content_text (newline_notMem_blank one) fits
  have all : Text.allBlank front = true :=
    List.all_eq_true.mpr fun c listed => List.all_eq_true.mp blank c (within.subset listed)
  rw [octets, filled_text said, all]
  rfl

theorem filledLines_stream {before : List (Sent α)} (after : List (Sent α))
    (back : ∀ a ∈ values before, d.ofText (encode a).compact.toList = .ok a)
    (fits : ∀ item ∈ before, item.Fits encode) :
    filledLines (stream encode (before ++ after)) =
      (values before).map (fun a => write (encode a)) ++ filledLines (stream encode after) := by
  rw [filledLines, filledLines, lines_stream, lines_stream, List.map_append, List.filter_append]
  congr 1
  induction before with
  | nil => rfl
  | cons item rest ih =>
    obtain ⟨first, others⟩ := List.forall_mem_cons.mp fits
    cases item with
    | value a =>
      obtain ⟨own, more⟩ := List.forall_mem_cons.mp back
      rw [List.map_cons, List.filter_cons_of_pos (filled_value own first), ih more others]
      rfl
    | blank text blank one =>
      have skipped : ¬ filled ((Sent.blank text blank one).octets encode) = true := by
        simp [filled_blank blank one first]
      rw [List.map_cons, List.filter_cons_of_neg skipped, ih back others]
      rfl

theorem datum_value {a : α} (back : d.ofText (encode a).compact.toList = .ok a)
    (fits : (Sent.value a).Fits encode) : datum d (write (encode a)) = .ok a := by
  rw [datum, content_write fits]
  simp only [Except.bind, back, Except.mapError]

theorem datum_long {line : Bytes} (long : maxSize < line.length) : datum d line = .error .tooLarge := by
  rw [datum, content, if_pos long]
  rfl

theorem reads_stream {before : List (Sent α)} (after : List (Sent α))
    (back : ∀ a ∈ values before, d.ofText (encode a).compact.toList = .ok a)
    (fits : ∀ item ∈ before, item.Fits encode) :
    ∃ rest, filledLines rest = filledLines (stream encode after) ∧
      ∀ n, reads (takeData d) ((values before).length + n) (stream encode (before ++ after)) =
        (values before).map (fun a => .ok (some a)) ++ reads (takeData d) n rest := by
  have each : ∀ a ∈ values before, (Sent.value a).Fits encode := by
    intro a listed
    obtain ⟨item, there, same⟩ := List.mem_filterMap.mp listed
    cases item with
    | value b =>
      cases same
      exact fits _ there
    | blank => cases same
  have short : ∀ line ∈ (values before).map (fun a => write (encode a)), line.length ≤ maxSize :=
    List.forall_mem_map.mpr each
  have step {stream line more} (cut : filledLines stream = line :: more) (fits : line.length ≤ maxSize) :
      (takeData d stream).result = (datum d line).map some ∧ filledLines (takeData d stream).rest = more :=
    ⟨(takeData_line d cut).1, (takeData_line d cut).2 (content_fits fits)⟩
  obtain ⟨rest, left, given⟩ := reads_append step (filledLines_stream after back fits) short
  refine ⟨rest, left, fun n => ?_⟩
  have told : (values before).map ((fun line => (datum d line).map some) ∘ fun a => write (encode a)) =
      (values before).map fun a => .ok (some a) := by
    refine List.map_congr_left fun a listed => ?_
    simp only [Function.comp_apply, datum_value (back a listed) (each a listed)]
    rfl
  rw [← told, ← List.map_map, ← given n, List.length_map]

theorem takeData_long {item : Sent α} {after : List (Sent α)} {stream : Bytes}
    (left : filledLines stream = filledLines (Sent.stream encode (item :: after)))
    (long : ¬ item.Fits encode) : (takeData d stream).result = .error .tooLarge := by
  have beyond : maxSize < (item.octets encode).length := Nat.lt_of_not_le long
  have fault : content (item.octets encode) = .error .tooLarge := if_pos beyond
  rw [filledLines, filledLines, lines_stream, List.map_cons,
    List.filter_cons_of_pos (filled_fault fault)] at left
  rw [(takeData_line d left).1, datum_long beyond]
  rfl

theorem exists_long {sent : List (Sent α)} (unfit : ¬ ∀ item ∈ sent, item.Fits encode) :
    ∃ before item after, sent = before ++ item :: after ∧ (∀ other ∈ before, other.Fits encode) ∧
      ¬ item.Fits encode := by
  induction sent with
  | nil => exact absurd (fun _ => nofun) unfit
  | cons first rest ih =>
    by_cases fits : first.Fits encode
    · obtain ⟨before, item, after, rfl, all, long⟩ :=
        ih fun all => unfit (List.forall_mem_cons.mpr ⟨fits, all⟩)
      exact ⟨first :: before, item, after, rfl, List.forall_mem_cons.mpr ⟨fits, all⟩, long⟩
    · exact ⟨[], first, rest, rfl, fun _ => nofun, fits⟩

end Sent

end Frame

theorem Frame.takeData_write {α : Type} {d : Decoder α} {j : Json}
    (text : Text.allBlank j.compact.toList = false) :
    (takeData d (write j)).result =
      if (write j).length ≤ maxSize then ((d.ofText j.compact.toList).mapError .notData).map .some
      else .error .tooLarge := by
  have cut : lines (write j) = [write j] := by simpa using lines_write [j]
  have kept : filled (write j) = true := by
    by_cases fits : (write j).length ≤ maxSize
    · rw [filled_text (content_write fits), text]
      rfl
    · exact filled_fault (if_pos (Nat.lt_of_not_le fits))
  have own : filledLines (write j) = [write j] := by rw [filledLines, cut, List.filter_singleton, kept]; rfl
  rw [(takeData_line d own).1, datum]
  split_ifs with fits
  · rw [content_write fits]
    rfl
  · rw [content, if_pos (Nat.lt_of_not_le fits)]
    rfl

theorem RemoteClient.readResponse_own {response : StoreResponse}
    (back : StoreResponse.decode.ofText response.encode.compact.toList = .ok response) :
    (readResponse ⟨Frame.write response.encode, false⟩).1 =
      if (Frame.write response.encode).length ≤ Frame.maxSize then .ok (some response)
      else .error (.protocol "frame exceeds 1048576 bytes") := by
  simp only [readResponse, await_write response.encode_filled, Frame.takeText_write]
  by_cases fits : (Frame.write response.encode).length ≤ Frame.maxSize
  · simp only [if_neg (Nat.not_lt.mpr fits), if_pos fits, back]
  · simp only [if_pos (Nat.lt_of_not_le fits), if_neg fits]
    rfl

theorem Response.encode_filled (response : Response) :
    Text.allBlank response.encode.compact.toList = false := by
  cases response <;> exact Frame.compact_obj_filled _

open Signalgrid.Frame Signalgrid.Frame.Sent

/-- What is written is what is read, if and only if every frame fits. -/
theorem Frame.delivery_exact {α : Type} (d : Decoder α) (encode : α → Json) (sent : List (Sent α))
    (back : ∀ a ∈ values sent, d.ofText (encode a).compact.toList = .ok a) :
    (reads (takeData d) ((values sent).length + 1) (stream encode sent) =
        (values sent).map (fun a => .ok (some a)) ++ [.ok none] ↔ ∀ item ∈ sent, item.Fits encode) ∧
      (∀ before item after, sent = before ++ item :: after →
        (∀ other ∈ before, other.Fits encode) → ¬ item.Fits encode →
          reads (takeData d) ((values before).length + 1) (stream encode sent) =
            (values before).map (fun a => .ok (some a)) ++ [.error .tooLarge]) ∧
      (∀ answer : StoreResponse,
        StoreResponse.decode.ofText answer.encode.compact.toList = .ok answer →
          (RemoteClient.readResponse ⟨write answer.encode, false⟩).1 =
            if (write answer.encode).length ≤ maxSize then .ok (some answer)
            else .error (.protocol "frame exceeds 1048576 bytes")) ∧
      ∀ reply : Response, Json.read reply.encode.compact.toList = some reply.encode →
        (takeData Decode.tree (write reply.encode)).result =
          if (write reply.encode).length ≤ maxSize then .ok (some reply.encode.canonical)
          else .error .tooLarge := by
  have cut_back {before after : List (Sent α)} (cut : sent = before ++ after) :
      ∀ a ∈ values before, d.ofText (encode a).compact.toList = .ok a := by
    intro a listed
    refine back a ?_
    rw [cut, values, List.filterMap_append]
    exact List.mem_append_left _ listed
  refine ⟨⟨fun all => ?_, fun fits => ?_⟩, ?_, fun _ => RemoteClient.readResponse_own, ?_⟩
  · -- The first that is too long would be told among the reads.
    by_contra unfit
    obtain ⟨before, item, after, cut, fits, long⟩ := exists_long unfit
    obtain ⟨rest, left, given⟩ := reads_stream (item :: after) (cut_back cut) fits
    have count : (values sent).length + 1 =
        (values before).length + ((values (item :: after)).length + 1) := by
      rw [cut, values, List.filterMap_append, List.length_append]
      rfl
    have told : .error FrameFault.tooLarge ∈
        (values sent).map (fun a => Except.ok (.some a)) ++ [.ok none] := by
      rw [← all, count, cut, given, reads, takeData_long left long]
      simp
    simp at told
  · obtain ⟨rest, left, given⟩ := reads_stream [] back fits
    rw [List.append_nil] at given
    rw [given 1, reads_one, takeData_end d left]
  · intro before item after cut fits long
    obtain ⟨rest, left, given⟩ := reads_stream (item :: after) (cut_back cut) fits
    rw [cut, given 1, reads_one, takeData_long left long]
  · intro reply legible
    rw [takeData_write reply.encode_filled, Decoder.ofText, legible]
    rfl

theorem Frame.delivery_exact_blank_lines :
    let sent : List (Sent StoreResponse) :=
      [.value (.error "offline"), .blank [' ', '\u2003', '\r'] (by decide) (by decide), .blank [] rfl nofun,
        .value (.ok none), .blank ['\t'] (by decide) (by decide)]
    (∀ a ∈ values sent, StoreResponse.decode.ofText a.encode.compact.toList = .ok a) ∧
      reads (takeData StoreResponse.decode) 3 (stream StoreResponse.encode sent) =
        [.ok (some (.error "offline")), .ok (some (.ok none)), .ok none] := by
  intro sent
  have refused : Carries (StoreResponse.error "offline").encode :=
    .of_legible ⟨trivial, trivial, trivial⟩ (by decide) (by decide +kernel)
  have done : Carries (StoreResponse.ok none).encode :=
    .of_legible ⟨trivial, trivial, trivial⟩ (by decide) (by decide +kernel)
  have back : ∀ a ∈ values sent, StoreResponse.decode.ofText a.encode.compact.toList = .ok a := by
    intro a listed
    rcases listed with _ | ⟨_, _ | ⟨_, ⟨⟩⟩⟩
    · exact (StoreResponse.reads (r := .error "offline") trivial).ofText refused.legible
    · exact (StoreResponse.reads (r := .ok none) fun _ => nofun).ofText done.legible
  have fits : ∀ item ∈ sent, item.Fits StoreResponse.encode := by
    simp only [sent, List.forall_mem_cons]
    exact ⟨refused.short, fits_blank (by decide), fits_blank (by decide), done.short,
      fits_blank (by decide), fun _ => nofun⟩
  exact ⟨back, (Frame.delivery_exact StoreResponse.decode StoreResponse.encode sent back).1.mpr fits⟩

theorem Frame.long_answer_refused :
    let reading : Reading :=
      ⟨"INT-A1", String.ofList (List.replicate maxSize 'a'), .epoch, .vehicles 0 .epoch .epoch⟩
    let answer : StoreResponse := .ok (some (.events [reading]))
    StoreResponse.decode.ofText answer.encode.compact.toList = .ok answer ∧
      reads (takeData StoreResponse.decode) 2 (stream StoreResponse.encode [.value answer]) ≠
        [.ok (some answer), .ok none] ∧
      (RemoteClient.readResponse ⟨write answer.encode, false⟩).1 ≠ .ok (some answer) := by
  have size : (String.ofList (List.replicate maxSize 'a')).toList.length = maxSize := by
    rw [String.toList_ofList, List.length_replicate]
  -- Only the length of the name counts.
  generalize String.ofList (List.replicate maxSize 'a') = name at size ⊢
  intro reading answer
  have legible : answer.encode.Legible :=
    ⟨trivial,
      ⟨trivial, ⟨⟨trivial, trivial, trivial, ⟨trivial, fun out => ⟨_, rfl, rfl⟩, trivial, trivial, trivial⟩,
        trivial⟩, trivial⟩, trivial⟩, trivial⟩
  have sound : answer.Fits := by
    rintro _ ⟨⟩ r listed
    obtain rfl := List.mem_singleton.mp listed
    show 0 < 4294967296
    decide
  have shallow : answer.encode.depth = 5 := rfl
  have back := (StoreResponse.reads sound).ofText (Json.read_compact legible (by rw [shallow]; decide))
  have long : maxSize < (write answer.encode).length := by
    calc maxSize = name.toList.length := size.symm
      _ ≤ (Json.str name).compact.toList.length := Json.compact_str name
      _ ≤ reading.encode.compact.toList.length := Json.compact_member (.tail _ (.head _))
      _ ≤ (Json.arr [reading.encode]).compact.toList.length := Json.compact_item (.head _)
      _ ≤ (Reply.events [reading]).encode.compact.toList.length :=
        Json.compact_member (.tail _ (.head _))
      _ ≤ answer.encode.compact.toList.length := Json.compact_member (.tail _ (.head _))
      _ < (write answer.encode).length := compact_length_lt answer.encode
  refine ⟨back, fun all => ?_, fun all => ?_⟩
  · have first : (takeData StoreResponse.decode (stream StoreResponse.encode [.value answer])).result =
        .error .tooLarge := takeData_long rfl (Nat.not_le_of_lt long)
    have head := congrArg List.head? all
    rw [reads, first] at head
    cases head
  · rw [RemoteClient.readResponse_own back, if_neg (Nat.not_le_of_lt long)] at all
    cases all

end Signalgrid
