import Signalgrid.Json.Basic

set_option autoImplicit false

namespace Signalgrid.Toml

abbrev Step := StateT (List Char) Option

namespace Step

def char (p : Char → Bool) : Step Char
  | c :: rest => if p c then some (c, rest) else none
  | [] => none

def skip (c : Char) : Step Unit := do
  let _ ← char (· == c)

def word : List Char → Step Unit
  | [] => pure ()
  | c :: rest => do
      skip c
      word rest

def run (p : Char → Bool) : Step (List Char) := fun cs => some (cs.takeWhile p, cs.dropWhile p)

def run1 (p : Char → Bool) : Step (List Char) := do
  let cs ← run p
  if cs.isEmpty then failure else pure cs

def peek : Step (Option Char) := fun cs => some (cs.head?, cs)

def atEnd : Step Bool := fun cs => some (cs.isEmpty, cs)

def optional {α : Type} (s : Step α) : Step (Option α) := (some <$> s) <|> pure none

def exactly (p : Char → Bool) : Nat → Step (List Char)
  | 0 => pure []
  | n + 1 => do
      let c ← char p
      let cs ← exactly p n
      pure (c :: cs)

def many {α : Type} (s : Step α) : Nat → Step (List α)
  | 0 => pure []
  | fuel + 1 => fun cs =>
      match s cs with
      | none => some ([], cs)
      | some (a, rest) =>
          if rest.length < cs.length then
            (many s fuel rest).map fun (as, rest) => (a :: as, rest)
          else some ([], cs)

def all {α : Type} (s : Step α) : Step (List α) := fun cs => many s (cs.length + 1) cs

def parted {α : Type} (sep : Char) (s : Step α) : Step (List α) := do
  let a ← s
  let as ← all (do skip sep; s)
  pure (a :: as)

end Step

def isDigit (c : Char) : Bool := '0' ≤ c && c ≤ '9'

def isBare (c : Char) : Bool :=
  ('a' ≤ c && c ≤ 'z') || ('A' ≤ c && c ≤ 'Z') || isDigit c || c == '_' || c == '-'

def isSpace (c : Char) : Bool := c == ' ' || c == '\t'

def isForeign (c : Char) : Bool := 0x80 ≤ c.toNat

def isRemark (c : Char) : Bool := c == '\t' || (0x20 ≤ c.toNat && c.toNat ≤ 0x7E) || isForeign c

def isPlain (c : Char) : Bool :=
  isSpace c || (0x21 ≤ c.toNat && c.toNat ≤ 0x7E && c != '"' && c != '\\') || isForeign c

def isVerbatim (c : Char) : Bool :=
  c == '\t' || (0x20 ≤ c.toNat && c.toNat ≤ 0x7E && c != '\x27') || isForeign c

namespace Step

def spaces : Step Unit := do
  let _ ← run isSpace

def newline : Step Unit := word ['\n'] <|> word ['\r', '\n']

def comment : Step Unit := do
  skip '#'
  let _ ← run isRemark

def lineEnd : Step Unit := do
  spaces
  let _ ← optional comment
  if ← atEnd then pure () else newline

def gap : Step Unit := do
  let _ ← all ((do let _ ← run1 isSpace) <|> newline <|> comment)

end Step

end Signalgrid.Toml
