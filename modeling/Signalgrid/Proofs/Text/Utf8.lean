import Signalgrid.Text.Utf8
import Mathlib.Tactic.SplitIfs

set_option autoImplicit false

namespace Signalgrid.Text

theorem toList_loop (bytes : ByteArray) (i : Nat) (done : List UInt8) :
    ByteArray.toList.loop bytes i done = done.reverse ++ bytes.data.toList.drop i := by
  fun_induction ByteArray.toList.loop bytes i done with
  | case1 i done inside ih =>
    have listed : i < bytes.data.toList.length := by simpa using inside
    have here : bytes.get! i = bytes.data.toList[i] := by
      cases bytes
      exact getElem!_pos _ i inside
    rw [ih, here, List.drop_eq_getElem_cons listed]
    simp
  | case2 i done outside =>
    rw [List.drop_eq_nil_of_le (by simpa using Nat.le_of_not_lt outside)]
    simp

theorem encodeUtf8_eq (s : String) : encodeUtf8 s = s.toList.flatMap String.utf8EncodeChar := by
  rw [encodeUtf8, String.toUTF8_eq_toByteArray, ← String.utf8Encode_toList, ByteArray.toList,
    toList_loop, List.utf8Encode, List.toList_data_toByteArray]
  rfl

section

variable {b : UInt8}

theorem leadWidth_one (high : b.toNat < 0x80) : leadWidth b = 1 := by
  simp [leadWidth, UInt8.lt_iff_toNat_lt, high]

theorem leadWidth_two (low : 0xC2 ≤ b.toNat) (high : b.toNat ≤ 0xDF) : leadWidth b = 2 := by
  have big : ¬ b.toNat < 0x80 := by omega
  simp [leadWidth, UInt8.lt_iff_toNat_lt, UInt8.le_iff_toNat_le, low, high, big]

theorem leadWidth_three (low : 0xE0 ≤ b.toNat) (high : b.toNat ≤ 0xEF) : leadWidth b = 3 := by
  have big : ¬ b.toNat < 0x80 := by omega
  have above : ¬ b.toNat ≤ 0xDF := by omega
  simp [leadWidth, UInt8.lt_iff_toNat_lt, UInt8.le_iff_toNat_le, low, high, big, above]

theorem leadWidth_four (low : 0xF0 ≤ b.toNat) (high : b.toNat ≤ 0xF4) : leadWidth b = 4 := by
  have big : ¬ b.toNat < 0x80 := by omega
  have above : ¬ b.toNat ≤ 0xDF := by omega
  have higher : ¬ b.toNat ≤ 0xEF := by omega
  simp [leadWidth, UInt8.lt_iff_toNat_lt, UInt8.le_iff_toNat_le, low, high, big, above, higher]

theorem isContinuation_iff : isContinuation b = true ↔ 0x80 ≤ b.toNat ∧ b.toNat ≤ 0xBF := by
  simp [isContinuation, UInt8.le_iff_toNat_le]

end

section

variable {a b c d : UInt8} (index : Nat) (done : List Piece) (rest : Bytes)

theorem pieces_one (lead : leadWidth a = 1) :
    pieces index done (a :: rest) = pieces (index + 1) (.char (Char.ofNat a.toNat) :: done) rest := by
  rw [pieces.eq_def]
  simp only [lead]

theorem pieces_two (lead : leadWidth a = 2) (second : isContinuation b = true) :
    pieces index done (a :: b :: rest) = pieces (index + 2) (.char (join2 a b) :: done) rest := by
  rw [pieces.eq_def]
  simp only [lead, second, if_true]

theorem pieces_three (lead : leadWidth a = 3) (second : secondOk a b = true)
    (third : isContinuation c = true) :
    pieces index done (a :: b :: c :: rest) =
      pieces (index + 3) (.char (join3 a b c) :: done) rest := by
  rw [pieces.eq_def]
  simp only [lead, second, third, if_true]

theorem pieces_four (lead : leadWidth a = 4) (second : secondOk a b = true)
    (third : isContinuation c = true) (fourth : isContinuation d = true) :
    pieces index done (a :: b :: c :: d :: rest) =
      pieces (index + 4) (.char (join4 a b c d) :: done) rest := by
  rw [pieces.eq_def]
  simp only [lead, second, third, fourth, if_true]

end

theorem secondOk_iff {lead second : UInt8} :
    secondOk lead second = true ↔
      (0x80 ≤ second.toNat ∧ second.toNat ≤ 0xBF) ∧
        (lead.toNat = 0xE0 → 0xA0 ≤ second.toNat) ∧ (lead.toNat = 0xED → second.toNat ≤ 0x9F) ∧
        (lead.toNat = 0xF0 → 0x90 ≤ second.toNat) ∧ (lead.toNat = 0xF4 → second.toNat ≤ 0x8F) := by
  simp only [secondOk, isContinuation, UInt8.le_iff_toNat_le, ← UInt8.toNat_inj, UInt8.reduceToNat]
  split_ifs <;> simp only [Bool.and_eq_true, decide_eq_true_eq] <;> omega

theorem pieces_utf8EncodeChar (c : Char) (index : Nat) (done : List Piece) (rest : Bytes) :
    pieces index done (String.utf8EncodeChar c ++ rest) =
      pieces (index + (String.utf8EncodeChar c).length) (.char c :: done) rest := by
  have same : Char.ofNat c.val.toNat = c := Char.ofNat_toNat c
  have valid : c.val.toNat < 0xD800 ∨ 0xDFFF < c.val.toNat ∧ c.val.toNat < 0x110000 := c.valid
  unfold String.utf8EncodeChar
  generalize c.val.toNat = v at same valid
  simp only
  split_ifs with one two three
  · have lead : (UInt8.ofNat v).toNat = v := by rw [UInt8.toNat_ofNat']; omega
    refine (pieces_one index done rest (leadWidth_one (by omega))).trans ?_
    rw [lead, same]
    rfl
  · have lead : (UInt8.ofNat (v / 64 % 0x20 + 0xc0)).toNat = v / 64 + 0xc0 := by
      rw [UInt8.toNat_ofNat']; omega
    have second : (UInt8.ofNat (v % 0x40 + 0x80)).toNat = v % 0x40 + 0x80 := by
      rw [UInt8.toNat_ofNat']; omega
    refine (pieces_two index done rest (leadWidth_two (by omega) (by omega))
      (isContinuation_iff.mpr (by omega))).trans ?_
    have whole : (v / 64 + 0xc0) % 0x20 * 0x40 + (v % 0x40 + 0x80) % 0x40 = v := by omega
    rw [join2, lead, second, whole, same]
    rfl
  · have lead : (UInt8.ofNat (v / 4096 % 0x10 + 0xe0)).toNat = v / 4096 + 0xe0 := by
      rw [UInt8.toNat_ofNat']; omega
    have second : (UInt8.ofNat (v / 64 % 0x40 + 0x80)).toNat = v / 64 % 0x40 + 0x80 := by
      rw [UInt8.toNat_ofNat']; omega
    have third : (UInt8.ofNat (v % 0x40 + 0x80)).toNat = v % 0x40 + 0x80 := by
      rw [UInt8.toNat_ofNat']; omega
    refine (pieces_three index done rest (leadWidth_three (by omega) (by omega))
      (secondOk_iff.mpr (by omega)) (isContinuation_iff.mpr (by omega))).trans ?_
    have whole : (v / 4096 + 0xe0) % 0x10 * 0x1000 + (v / 64 % 0x40 + 0x80) % 0x40 * 0x40 +
        (v % 0x40 + 0x80) % 0x40 = v := by omega
    rw [join3, lead, second, third, whole, same]
    rfl
  · have lead : (UInt8.ofNat (v / 262144 % 0x08 + 0xf0)).toNat = v / 262144 + 0xf0 := by
      rw [UInt8.toNat_ofNat']; omega
    have second : (UInt8.ofNat (v / 4096 % 0x40 + 0x80)).toNat = v / 4096 % 0x40 + 0x80 := by
      rw [UInt8.toNat_ofNat']; omega
    have third : (UInt8.ofNat (v / 64 % 0x40 + 0x80)).toNat = v / 64 % 0x40 + 0x80 := by
      rw [UInt8.toNat_ofNat']; omega
    have fourth : (UInt8.ofNat (v % 0x40 + 0x80)).toNat = v % 0x40 + 0x80 := by
      rw [UInt8.toNat_ofNat']; omega
    refine (pieces_four index done rest (leadWidth_four (by omega) (by omega))
      (secondOk_iff.mpr (by omega)) (isContinuation_iff.mpr (by omega))
      (isContinuation_iff.mpr (by omega))).trans ?_
    have whole : (v / 262144 + 0xf0) % 8 * 0x40000 + (v / 4096 % 0x40 + 0x80) % 0x40 * 0x1000 +
        (v / 64 % 0x40 + 0x80) % 0x40 * 0x40 + (v % 0x40 + 0x80) % 0x40 = v := by omega
    rw [join4, lead, second, third, fourth, whole, same]
    rfl

theorem pieces_flatMap (cs : List Char) (index : Nat) (done : List Piece) :
    pieces index done (cs.flatMap String.utf8EncodeChar) = (cs.map Piece.char).reverse ++ done := by
  induction cs generalizing index done with
  | nil => simp [pieces]
  | cons c rest ih => rw [List.flatMap_cons, pieces_utf8EncodeChar, ih]; simp

theorem collect_chars (cs : List Char) (out : List Char) :
    collect (cs.map Piece.char) none out = .ok (cs.reverse ++ out) := by
  induction cs generalizing out with
  | nil => rfl
  | cons c rest ih => rw [List.map_cons, collect, ih]; simp

theorem decodeUtf8_encodeUtf8 (s : String) : decodeUtf8 (encodeUtf8 s) = .ok s.toList := by
  rw [decodeUtf8, encodeUtf8_eq, pieces_flatMap, List.append_nil, ← List.map_reverse, collect_chars]
  simp

section

variable {a b c d : UInt8}

theorem leadWidth_bounds (a : UInt8) :
    (leadWidth a = 1 → a.toNat < 0x80) ∧ (leadWidth a = 2 → 0xC2 ≤ a.toNat ∧ a.toNat ≤ 0xDF) ∧
      (leadWidth a = 3 → 0xE0 ≤ a.toNat ∧ a.toNat ≤ 0xEF) ∧
      (leadWidth a = 4 → 0xF0 ≤ a.toNat ∧ a.toNat ≤ 0xF4) := by
  unfold leadWidth
  simp only [UInt8.lt_iff_toNat_lt, UInt8.le_iff_toNat_le, UInt8.reduceToNat]
  split_ifs <;> simp_all

theorem ofNat_val {n : Nat} (valid : n < 0xD800 ∨ 0xDFFF < n ∧ n < 0x110000) :
    (Char.ofNat n).val.toNat = n := by
  have scalar : n.isValidChar := valid
  rw [Char.ofNat, dif_pos scalar]
  rfl

theorem utf8EncodeChar_one (lead : leadWidth a = 1) : String.utf8EncodeChar (Char.ofNat a.toNat) = [a] := by
  have bound := (leadWidth_bounds a).1 lead
  unfold String.utf8EncodeChar
  rw [ofNat_val (by omega)]
  simp only
  rw [if_pos (by omega), UInt8.ofNat_toNat]

theorem utf8EncodeChar_join2 (lead : leadWidth a = 2) (second : isContinuation b = true) :
    String.utf8EncodeChar (join2 a b) = [a, b] := by
  have bound := (leadWidth_bounds a).2.1 lead
  rw [isContinuation_iff] at second
  unfold String.utf8EncodeChar join2
  rw [ofNat_val (by omega)]
  simp only
  rw [if_neg (by omega), if_pos (by omega)]
  simp only [List.cons.injEq, ← UInt8.toNat_inj, UInt8.toNat_ofNat', and_true]
  omega

theorem utf8EncodeChar_join3 (lead : leadWidth a = 3) (second : secondOk a b = true)
    (third : isContinuation c = true) : String.utf8EncodeChar (join3 a b c) = [a, b, c] := by
  have bound := (leadWidth_bounds a).2.2.1 lead
  rw [secondOk_iff] at second
  rw [isContinuation_iff] at third
  unfold String.utf8EncodeChar join3
  rw [ofNat_val (by omega)]
  simp only
  rw [if_neg (by omega), if_neg (by omega), if_pos (by omega)]
  simp only [List.cons.injEq, ← UInt8.toNat_inj, UInt8.toNat_ofNat', and_true]
  omega

theorem utf8EncodeChar_join4 (lead : leadWidth a = 4) (second : secondOk a b = true)
    (third : isContinuation c = true) (fourth : isContinuation d = true) :
    String.utf8EncodeChar (join4 a b c d) = [a, b, c, d] := by
  have bound := (leadWidth_bounds a).2.2.2 lead
  rw [secondOk_iff] at second
  rw [isContinuation_iff] at third fourth
  unfold String.utf8EncodeChar join4
  rw [ofNat_val (by omega)]
  simp only
  rw [if_neg (by omega), if_neg (by omega), if_neg (by omega)]
  simp only [List.cons.injEq, ← UInt8.toNat_inj, UInt8.toNat_ofNat', and_true]
  omega

end

def Spells (done : List Piece) (bytes : Bytes) (out : List Piece) : Prop :=
  (∃ e, Piece.bad e ∈ out) ∨
    ∃ cs : List Char, out = (cs.map Piece.char).reverse ++ done ∧ cs.flatMap String.utf8EncodeChar = bytes

section

variable {done out : List Piece} {bytes rest : Bytes}

theorem Spells.char {c : Char} {front : Bytes} (spells : Spells (.char c :: done) rest out)
    (octets : String.utf8EncodeChar c = front) : Spells done (front ++ rest) out := by
  rcases spells with fault | ⟨cs, rfl, same⟩
  · exact .inl fault
  · exact .inr ⟨c :: cs, by simp, by rw [List.flatMap_cons, octets, same]⟩

theorem Spells.fault {e : BadUtf8} (spells : Spells (.bad e :: done) rest out) :
    Spells done bytes out := by
  rcases spells with fault | ⟨cs, rfl, _⟩
  · exact .inl fault
  · exact .inl ⟨e, by simp⟩

theorem Spells.ended (e : BadUtf8) : Spells done bytes (.bad e :: done) := .inl ⟨e, by simp⟩

end

/-- By the cases of the reader: a character is taken whole, or a fault is met and passed over, or the
octets end within a character. -/
theorem pieces_spells (bytes : Bytes) (index : Nat) (done : List Piece) :
    Spells done bytes (pieces index done bytes) := by
  fun_induction pieces index done bytes with
  | case1 => exact .inr ⟨[], rfl, rfl⟩
  | case2 index done a r lead ih => exact ih.char (utf8EncodeChar_one lead)
  | case4 index done a lead b r second ih => exact ih.char (utf8EncodeChar_join2 lead second)
  | case8 index done a lead b second c r third ih => exact ih.char (utf8EncodeChar_join3 lead second third)
  | case14 index done a lead b second c third d r fourth ih =>
    exact ih.char (utf8EncodeChar_join4 lead second third fourth)
  | case3 | case6 | case7 | case11 | case12 | case13 => exact .ended _
  | case5 | case9 | case10 | case15 | case16 | case17 | case18 =>
    rename_i ih
    exact ih.fault

theorem collect_fault (ps : List Piece) {fault : Option BadUtf8} (out : List Char)
    (some : fault.isSome ∨ ∃ e, Piece.bad e ∈ ps) : ∃ e, collect ps fault out = .error e := by
  induction ps generalizing fault out with
  | nil =>
    obtain ⟨e, rfl⟩ := Option.isSome_iff_exists.mp (some.resolve_right (by simp))
    exact ⟨e, rfl⟩
  | cons p rest ih =>
    cases p with
    | char c => exact ih _ (some.imp_right fun ⟨e, member⟩ => ⟨e, by simpa using member⟩)
    | bad e => exact ih _ (.inl rfl)

theorem decodeUtf8_ok_iff {bytes : Bytes} {cs : List Char} :
    decodeUtf8 bytes = .ok cs ↔ encodeUtf8 (String.ofList cs) = bytes := by
  constructor
  · intro decoded
    rw [decodeUtf8] at decoded
    rcases pieces_spells bytes 0 [] with fault | ⟨read, spelled, same⟩
    · obtain ⟨e, failed⟩ := collect_fault _ [] (.inr fault)
      rw [failed] at decoded
      cases decoded
    · rw [spelled, List.append_nil, ← List.map_reverse, collect_chars] at decoded
      cases decoded
      simp [encodeUtf8_eq, same]
  · rintro rfl
    rw [decodeUtf8_encodeUtf8, String.toList_ofList]

theorem utf8EncodeChar_low {c : Char} {b : UInt8} (among : b ∈ String.utf8EncodeChar c)
    (low : b.toNat < 0x80) : String.utf8EncodeChar c = [b] ∧ c.toNat = b.toNat := by
  have same : c.toNat = c.val.toNat := rfl
  rw [same]
  unfold String.utf8EncodeChar at among ⊢
  generalize c.val.toNat = v at among ⊢
  simp only at among ⊢
  split_ifs at among ⊢ with one two three
  · obtain rfl := List.mem_singleton.mp among
    rw [UInt8.toNat_ofNat']
    exact ⟨rfl, by omega⟩
  all_goals
    simp only [List.mem_cons, List.not_mem_nil, or_false] at among
    exfalso
  · rcases among with rfl | rfl <;> rw [UInt8.toNat_ofNat'] at low <;> omega
  · rcases among with rfl | rfl | rfl <;> rw [UInt8.toNat_ofNat'] at low <;> omega
  · rcases among with rfl | rfl | rfl | rfl <;> rw [UInt8.toNat_ofNat'] at low <;> omega

theorem encodeUtf8_printable {s : String} (printable : ∀ c ∈ s.toList, 0x20 ≤ c.toNat) :
    ∀ b ∈ encodeUtf8 s, 0x20 ≤ b.toNat := by
  intro b written
  rw [encodeUtf8_eq] at written
  obtain ⟨c, listed, among⟩ := List.mem_flatMap.mp written
  rcases Nat.lt_or_ge b.toNat 0x80 with low | high
  · rw [← (utf8EncodeChar_low among low).2]
    exact printable c listed
  · omega

end Signalgrid.Text
