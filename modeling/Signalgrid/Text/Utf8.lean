set_option autoImplicit false

namespace Signalgrid

abbrev Bytes := List UInt8

namespace Text

structure BadUtf8 where
  start : Nat
  size : Option Nat
deriving Repr, DecidableEq

def BadUtf8.message (e : BadUtf8) : String :=
  match e.size with
  | some n => "invalid utf-8 sequence of " ++ toString n ++ " bytes from index " ++ toString e.start
  | none => "incomplete utf-8 byte sequence from index " ++ toString e.start

def isContinuation (b : UInt8) : Bool := 0x80 ≤ b && b ≤ 0xBF

/-- The ranges leave out overlong forms and surrogates. -/
def secondOk (lead second : UInt8) : Bool :=
  if lead = 0xE0 then 0xA0 ≤ second && second ≤ 0xBF
  else if lead = 0xED then 0x80 ≤ second && second ≤ 0x9F
  else if lead = 0xF0 then 0x90 ≤ second && second ≤ 0xBF
  else if lead = 0xF4 then 0x80 ≤ second && second ≤ 0x8F
  else isContinuation second

def leadWidth (b : UInt8) : Nat :=
  if b < 0x80 then 1
  else if 0xC2 ≤ b && b ≤ 0xDF then 2
  else if 0xE0 ≤ b && b ≤ 0xEF then 3
  else if 0xF0 ≤ b && b ≤ 0xF4 then 4
  else 0

def join2 (a b : UInt8) : Char := Char.ofNat (a.toNat % 0x20 * 0x40 + b.toNat % 0x40)

def join3 (a b c : UInt8) : Char :=
  Char.ofNat (a.toNat % 0x10 * 0x1000 + b.toNat % 0x40 * 0x40 + c.toNat % 0x40)

def join4 (a b c d : UInt8) : Char :=
  Char.ofNat (a.toNat % 8 * 0x40000 + b.toNat % 0x40 * 0x1000 + c.toNat % 0x40 * 0x40 + d.toNat % 0x40)

inductive Piece where
  | char (c : Char)
  | bad (e : BadUtf8)

def pieces (index : Nat) (done : List Piece) : Bytes → List Piece
  | [] => done
  | a :: r =>
    let fail (n : Option Nat) := Piece.bad ⟨index, n⟩ :: done
    match leadWidth a with
    | 1 => pieces (index + 1) (.char (Char.ofNat a.toNat) :: done) r
    | 2 =>
      match r with
      | [] => fail none
      | b :: r₁ =>
        if isContinuation b then pieces (index + 2) (.char (join2 a b) :: done) r₁
        else pieces (index + 1) (fail (some 1)) (b :: r₁)
    | 3 =>
      match r with
      | [] => fail none
      | b :: r₁ =>
        if secondOk a b then
          match r₁ with
          | [] => fail none
          | c :: r₂ =>
            if isContinuation c then pieces (index + 3) (.char (join3 a b c) :: done) r₂
            else pieces (index + 2) (fail (some 2)) (c :: r₂)
        else pieces (index + 1) (fail (some 1)) (b :: r₁)
    | 4 =>
      match r with
      | [] => fail none
      | b :: r₁ =>
        if secondOk a b then
          match r₁ with
          | [] => fail none
          | c :: r₂ =>
            if isContinuation c then
              match r₂ with
              | [] => fail none
              | d :: r₃ =>
                if isContinuation d then pieces (index + 4) (.char (join4 a b c d) :: done) r₃
                else pieces (index + 3) (fail (some 3)) (d :: r₃)
            else pieces (index + 2) (fail (some 2)) (c :: r₂)
        else pieces (index + 1) (fail (some 1)) (b :: r₁)
    | _ => pieces (index + 1) (fail (some 1)) r

def collect : List Piece → Option BadUtf8 → List Char → Except BadUtf8 (List Char)
  | [], none, out => .ok out
  | [], some e, _ => .error e
  | .char c :: rest, fault, out => collect rest fault (c :: out)
  | .bad e :: rest, _, out => collect rest (some e) out

def decodeUtf8 (bytes : Bytes) : Except BadUtf8 (List Char) := collect (pieces 0 [] bytes) none []

def decodeLossy (bytes : Bytes) : List Char :=
  (pieces 0 [] bytes).reverse.map fun
    | .char c => c
    | .bad _ => '\ufffd'

def encodeUtf8 (s : String) : Bytes := s.toUTF8.toList

end Text

end Signalgrid
