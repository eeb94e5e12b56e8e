import Signalgrid.Json.Reader
import Signalgrid.Json.Writer

set_option autoImplicit false

namespace Signalgrid.Json

def settled : Scanned → Option (List Token)
  | (.between, out) => some out
  | (.word done, out) => (ofWord done.reverse).map fun j => .scalar j :: out
  | (.number done, out) => (ofNumeral done.reverse).map fun j => .scalar j :: out
  | _ => none

theorem finishScan_settled (x : Scanned) : finishScan x = (settled x).map List.reverse := by
  obtain ⟨s, out⟩ := x
  cases s with
  | between => rfl
  | word done => cases word : ofWord done.reverse <;> simp [finishScan, settled, word]
  | number done => cases number : ofNumeral done.reverse <;> simp [finishScan, settled, number]
  | _ => rfl

def Scans (text : List Char) (ts : List Token) : Prop :=
  ∀ out, text.foldlM scanChar (.between, out) = some (.between, ts.reverse ++ out)

def Reaches (text : List Char) (ts : List Token) : Prop :=
  ∀ out, ∃ x, text.foldlM scanChar (.between, out) = some x ∧ settled x = some (ts.reverse ++ out)

section

variable {a b : List Char} {ts us : List Token}

theorem Scans.nil : Scans [] [] := fun _ => rfl

theorem Scans.append (front : Scans a ts) (back : Scans b us) : Scans (a ++ b) (ts ++ us) := by
  intro out
  rw [List.foldlM_append, front out]
  simpa using back (ts.reverse ++ out)

theorem Scans.reaches (scans : Scans a ts) : Reaches a ts := fun out => ⟨_, scans out, rfl⟩

theorem Scans.append_reaches (front : Scans a ts) (back : Reaches b us) :
    Reaches (a ++ b) (ts ++ us) := by
  intro out
  obtain ⟨x, read, last⟩ := back (ts.reverse ++ out)
  refine ⟨x, ?_, by simpa using last⟩
  rw [List.foldlM_append, front out]
  exact read

structure Ends (c : Char) (t : Token) : Prop where
  letter : c.isAlpha = false
  digit : isNumberChar c = false
  fresh : ∀ out, scanFresh out c = some (.between, t :: out)

theorem Ends.scans {c : Char} {t : Token} (ends : Ends c t) : Scans [c] [t] := by
  intro out
  rw [List.foldlM_cons, scanChar, ends.fresh]
  rfl

theorem Reaches.ended {c : Char} {t : Token} (reaches : Reaches a ts) (ends : Ends c t) :
    Scans (a ++ [c]) (ts ++ [t]) := by
  intro out
  obtain ⟨⟨s, gone⟩, read, last⟩ := reaches out
  have next : scanChar (s, gone) c = some (.between, t :: (ts.reverse ++ out)) := by
    cases s with
    | between =>
      cases last
      exact ends.fresh _
    | word done =>
      obtain ⟨j, word, same⟩ := Option.map_eq_some_iff.mp last
      simp [scanChar, ends.letter, word, ends.fresh, same]
    | number done =>
      obtain ⟨j, number, same⟩ := Option.map_eq_some_iff.mp last
      simp [scanChar, ends.digit, number, ends.fresh, same]
    | _ => cases last
  rw [List.foldlM_append, read]
  simpa using next

end

theorem ends_comma : Ends ',' .comma := ⟨by decide, by decide, fun _ => rfl⟩

theorem ends_colon : Ends ':' .colon := ⟨by decide, by decide, fun _ => rfl⟩

theorem ends_list : Ends ']' (.closing true) := ⟨by decide, by decide, fun _ => rfl⟩

theorem ends_object : Ends '\x7d' (.closing false) := ⟨by decide, by decide, fun _ => rfl⟩

theorem hexValue?_hexDigit {n : Nat} (small : n < 16) : hexValue? (hexDigit n) = some n := by
  have all : ∀ n < 16, hexValue? (hexDigit n) = some n := by decide +kernel
  exact all n small

theorem scan_escapeChar (c : Char) (done : List Char) (out : List Token) :
    (escapeChar c).foldlM scanChar (.inText done, out) = some (.inText (c :: done), out) := by
  unfold escapeChar
  split
  case h_8 =>
    split
    next low =>
      have high := hexValue?_hexDigit (n := c.toNat / 16) (by omega)
      have rest := hexValue?_hexDigit (n := c.toNat % 16) (by omega)
      have zero : hexValue? '0' = some 0 := by decide
      have code : c.toNat / 16 * 16 + c.toNat % 16 = c.toNat := by omega
      have plain : ¬ (0xD800 ≤ c.toNat ∧ c.toNat ≤ 0xDBFF) := by omega
      have plain' : ¬ (0xDC00 ≤ c.toNat ∧ c.toNat ≤ 0xDFFF) := by omega
      simp [scanChar, zero, high, rest, code, finishUnicode, plain, plain']
    next high => simp_all [scanChar]
  all_goals rfl

theorem scan_escaped (cs done : List Char) (out : List Token) :
    (cs.flatMap escapeChar).foldlM scanChar (.inText done, out) = some (.inText (cs.reverse ++ done), out) := by
  induction cs generalizing done with
  | nil => rfl
  | cons c rest ih =>
    rw [List.flatMap_cons, List.foldlM_append, scan_escapeChar]
    simpa using ih (c :: done)

theorem scans_quoted (s : String) : Scans (quoted s).toList [.text s] := by
  intro out
  have opened : scanChar (.between, out) '"' = some (.inText [], out) := rfl
  have closed : scanChar (.inText s.toList.reverse, out) '"' =
      some (.between, .text (String.ofList s.toList.reverse.reverse) :: out) := rfl
  simp [quoted, opened, scan_escaped, closed]

mutual

def tokens : Json → List Token
  | .arr items => .opening true :: itemTokens true items ++ [.closing true]
  | .obj members => .opening false :: memberTokens true members ++ [.closing false]
  | .str s => [.text s]
  | j => [.scalar j]

def itemTokens (first : Bool) : List Json → List Token
  | [] => []
  | j :: rest => (if first then [] else [.comma]) ++ tokens j ++ itemTokens false rest

def memberTokens (first : Bool) : List Member → List Token
  | [] => []
  | (k, j) :: rest =>
      (if first then [] else [.comma]) ++ [.text k, .colon] ++ tokens j ++ memberTokens false rest

end

mutual

def Legible : Json → Prop
  | .int n => Reaches (scalarText (.int n)).toList [.scalar (.int n)]
  | .float x => Reaches (scalarText (.float x)).toList [.scalar (.float x)]
  | .arr items => LegibleItems items
  | .obj members => LegibleMembers members
  | _ => True

def LegibleItems : List Json → Prop
  | [] => True
  | j :: rest => Legible j ∧ LegibleItems rest

def LegibleMembers : List Member → Prop
  | [] => True
  | (_, j) :: rest => Legible j ∧ LegibleMembers rest

end

def Before (first : Bool) (out : String) (ts : List Token) : Prop :=
  if first then Scans out.toList ts else Reaches out.toList ts

theorem Before.reaches {first : Bool} {out : String} {ts : List Token} (before : Before first out ts) :
    Reaches out.toList ts := by
  cases first with
  | true => exact Scans.reaches before
  | false => exact before

theorem Before.parted {first : Bool} {out : String} {ts : List Token} (before : Before first out ts) :
    Scans (if first then out else out ++ ",").toList (ts ++ if first then [] else [.comma]) := by
  cases first with
  | true =>
    have scans : Scans out.toList ts := before
    simpa using scans
  | false =>
    have ended := Reaches.ended before ends_comma
    simpa using ended

mutual

theorem writeTo_reaches {out : String} {ts : List Token} (before : Scans out.toList ts) :
    ∀ j : Json, j.Legible → Reaches (writeTo out j).toList (ts ++ tokens j)
  | .arr items, legible => by
      have opened : Scans (out ++ "[").toList (ts ++ [.opening true]) := by
        have bracket : Scans ['['] [.opening true] := fun _ => rfl
        simpa using before.append bracket
      have all := (writeItems_reaches true opened items legible).ended ends_list
      simpa [writeTo, tokens] using all.reaches
  | .obj members, legible => by
      have opened : Scans (out ++ "\x7b").toList (ts ++ [.opening false]) := by
        have bracket : Scans ['\x7b'] [.opening false] := fun _ => rfl
        simpa using before.append bracket
      have all := (writeMembers_reaches true opened members legible).ended ends_object
      simpa [writeTo, tokens] using all.reaches
  | .str s, _ => by
      simpa [writeTo, tokens, scalarText] using (before.append (scans_quoted s)).reaches
  | .int n, legible => by
      simpa [writeTo, tokens] using before.append_reaches legible
  | .float x, legible => by
      simpa [writeTo, tokens] using before.append_reaches legible
  | .bool b, _ => by
      have word : Reaches (scalarText (.bool b)).toList [.scalar (.bool b)] := by
        cases b <;> exact fun out => ⟨_, rfl, rfl⟩
      simpa [writeTo, tokens] using before.append_reaches word
  | .null, _ => by
      have word : Reaches (scalarText .null).toList [.scalar .null] := fun out => ⟨_, rfl, rfl⟩
      simpa [writeTo, tokens] using before.append_reaches word

theorem writeItems_reaches (first : Bool) {out : String} {ts : List Token}
    (before : Before first out ts) :
    ∀ items : List Json, LegibleItems items →
      Reaches (writeItems out first items).toList (ts ++ itemTokens first items)
  | [], _ => by
      simpa [writeItems, itemTokens] using before.reaches
  | j :: rest, legible => by
      have item := writeTo_reaches before.parted j legible.1
      simpa [writeItems, itemTokens] using writeItems_reaches false item rest legible.2

theorem writeMembers_reaches (first : Bool) {out : String} {ts : List Token}
    (before : Before first out ts) :
    ∀ members : List Member, LegibleMembers members →
      Reaches (writeMembers out first members).toList (ts ++ memberTokens first members)
  | [], _ => by
      simpa [writeMembers, memberTokens] using before.reaches
  | (k, j) :: rest, legible => by
      have key : Scans ((if first then out else out ++ ",") ++ quoted k ++ ":").toList
          (ts ++ (if first then [] else [.comma]) ++ [.text k, .colon]) := by
        simpa using (before.parted.append (scans_quoted k)).append ends_colon.scans
      have member := writeTo_reaches key j legible.1
      simpa [writeMembers, memberTokens] using writeMembers_reaches false member rest legible.2

end

theorem scan_compact {j : Json} (legible : j.Legible) : scan j.compact.toList = some j.tokens := by
  obtain ⟨x, read, last⟩ := @writeTo_reaches "" [] Scans.nil j legible []
  rw [scan, compact, read, Option.bind_some, finishScan_settled, last]
  simp

mutual

def depth : Json → Nat
  | .arr items => depthOfItems items + 1
  | .obj members => depthOfMembers members + 1
  | _ => 0

def depthOfItems : List Json → Nat
  | [] => 0
  | j :: rest => max (depth j) (depthOfItems rest)

def depthOfMembers : List Member → Nat
  | [] => 0
  | (_, j) :: rest => max (depth j) (depthOfMembers rest)

end

section

variable (limit : Nat)

theorem foldlM_step {b b' : Build} {t : Token} (stepped : b.step limit t = some b') (rest : List Token) :
    (t :: rest).foldlM (Build.step limit) b = rest.foldlM (Build.step limit) b' := by
  rw [List.foldlM_cons, stepped]
  rfl

theorem foldlM_front {b b' : Build} {front : List Token}
    (built : front.foldlM (Build.step limit) b = some b') (rest : List Token) :
    (front ++ rest).foldlM (Build.step limit) b = rest.foldlM (Build.step limit) b' := by
  rw [List.foldlM_append, built]
  rfl

theorem step_opening {stack : List Frame} (room : stack.length < limit) (list : Bool) :
    Build.step limit ⟨stack, .value⟩ (.opening list) =
      some ⟨stack, if list then .itemOrClose else .keyOrClose⟩ := by
  simp [Build.step, Build.start, Build.opened, Nat.not_le.mpr room]

theorem foldlM_item (stack : List Frame) (j : Json) (rest : List Token) :
    (tokens j ++ rest).foldlM (Build.step limit) ⟨stack, .itemOrClose⟩ =
      (tokens j ++ rest).foldlM (Build.step limit) ⟨.items [] :: stack, .value⟩ := by
  cases j <;> rfl

mutual

theorem foldlM_tokens (stack : List Frame) :
    ∀ j : Json, j.depth + stack.length ≤ limit →
      (tokens j).foldlM (Build.step limit) ⟨stack, .value⟩ = some ⟨stack, .commaOrClose j⟩
  | .arr [], room => by
      simp only [depth] at room
      exact foldlM_step limit (step_opening limit (by omega) true) _
  | .arr (j :: rest), room => by
      simp only [depth, depthOfItems] at room
      have first := foldlM_tokens (.items [] :: stack) j (by simp only [List.length_cons]; omega)
      have others := foldlM_itemTokens stack [] j rest (by omega)
      simp only [tokens, itemTokens, if_true, List.nil_append, List.cons_append, List.append_assoc]
      rw [foldlM_step limit (step_opening limit (by omega) true)]
      exact (foldlM_item limit stack j _).trans ((foldlM_front limit first _).trans others)
  | .obj [], room => by
      simp only [depth] at room
      exact foldlM_step limit (step_opening limit (by omega) false) _
  | .obj ((k, j) :: rest), room => by
      simp only [depth, depthOfMembers] at room
      have first := foldlM_tokens (.members [] k :: stack) j (by simp only [List.length_cons]; omega)
      have others := foldlM_memberTokens stack [] k j rest (by omega)
      simp only [tokens, memberTokens, if_true, List.nil_append, List.cons_append, List.append_assoc]
      rw [foldlM_step limit (step_opening limit (by omega) false)]
      exact (foldlM_front limit first _).trans others
  | .str s, _ => rfl
  | .int n, _ => rfl
  | .float x, _ => rfl
  | .bool b, _ => rfl
  | .null, _ => rfl

theorem foldlM_itemTokens (stack : List Frame) (done : List Json) (last : Json) :
    ∀ rest : List Json, depthOfItems rest + 1 + stack.length ≤ limit →
      (itemTokens false rest ++ [Token.closing true]).foldlM (Build.step limit)
          (⟨.items done :: stack, .commaOrClose last⟩ : Build) =
        some ⟨stack, .commaOrClose (.arr (done.reverse ++ last :: rest))⟩
  | [], _ => by
      simp [itemTokens, Build.step]
  | j :: rest, room => by
      simp only [depthOfItems] at room
      have next := foldlM_tokens (.items (last :: done) :: stack) j (by simp only [List.length_cons]; omega)
      have others := foldlM_itemTokens stack (last :: done) j rest (by omega)
      simp only [itemTokens, Bool.false_eq_true, if_false, List.cons_append, List.append_assoc,
        List.nil_append]
      refine (foldlM_front limit next _).trans ?_
      simpa using others

theorem foldlM_memberTokens (stack : List Frame) (done : List Member) (key : String) (last : Json) :
    ∀ rest : List Member, depthOfMembers rest + 1 + stack.length ≤ limit →
      (memberTokens false rest ++ [Token.closing false]).foldlM (Build.step limit)
          (⟨.members done key :: stack, .commaOrClose last⟩ : Build) =
        some ⟨stack, .commaOrClose (.obj (done.reverse ++ (key, last) :: rest))⟩
  | [], _ => by
      simp [memberTokens, Build.step]
  | (k, j) :: rest, room => by
      simp only [depthOfMembers] at room
      have next := foldlM_tokens (.members ((key, last) :: done) k :: stack) j
        (by simp only [List.length_cons]; omega)
      have others := foldlM_memberTokens stack ((key, last) :: done) k j rest (by omega)
      simp only [memberTokens, Bool.false_eq_true, if_false, List.cons_append, List.append_assoc,
        List.nil_append]
      refine (foldlM_front limit next _).trans ?_
      simpa using others

end

end

theorem read_compact {j : Json} (legible : j.Legible) (shallow : j.depth ≤ 127) :
    read j.compact.toList = some j := by
  have built := foldlM_tokens 127 [] j shallow
  simp [read, readWithin, scan_compact legible, ofTokensWithin, built, Build.finish]

end Signalgrid.Json
