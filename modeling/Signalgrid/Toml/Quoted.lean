import Signalgrid.Toml.Step

set_option autoImplicit false

namespace Signalgrid.Toml

def hexValue? (c : Char) : Option Nat :=
  if isDigit c then some (c.toNat - 48)
  else if 'a' ≤ c && c ≤ 'f' then some (c.toNat - 87)
  else if 'A' ≤ c && c ≤ 'F' then some (c.toNat - 55)
  else none

def ofHex (cs : List Char) : Nat := cs.foldl (fun n c => 16 * n + (hexValue? c).getD 0) 0

def ofCode (code : Nat) : Step Char :=
  if code < 0xD800 ∨ (0xDFFF < code ∧ code < 0x110000) then pure (Char.ofNat code) else failure

namespace Step

def code (width : Nat) : Step Char := do
  let cs ← exactly (fun c => (hexValue? c).isSome) width
  ofCode (ofHex cs)

def escape : Step Char := do
  skip '\\'
  match ← char fun _ => true with
  | 'b' => pure '\x08'
  | 'f' => pure '\x0c'
  | 'n' => pure '\n'
  | 'r' => pure '\r'
  | 't' => pure '\t'
  | '"' => pure '"'
  | '\\' => pure '\\'
  | 'u' => code 4
  | 'U' => code 8
  | _ => failure

def basic : Step (List Char) := do
  skip '"'
  let parts ← all (run1 isPlain <|> (do let c ← escape; pure [c]))
  skip '"'
  pure parts.flatten

def verbatim : Step (List Char) := do
  skip '\x27'
  let cs ← run isVerbatim
  skip '\x27'
  pure cs

def continuation : Step (List Char) := do
  skip '\\'
  spaces
  newline
  let _ ← all ((do let _ ← run1 isSpace) <|> newline)
  pure []

def softBreak : Step (List Char) := do
  newline
  pure ['\n']

def fewQuotes (quote : Char) : Step (List Char) := fun cs =>
  let qs := cs.takeWhile (· == quote)
  if qs.length = 1 ∨ qs.length = 2 then some (qs, cs.dropWhile (· == quote)) else none

def closing (quote : Char) : Step (List Char) := fun cs =>
  let n := (cs.takeWhile (· == quote)).length
  if 3 ≤ n ∧ n ≤ 5 then some (List.replicate (n - 3) quote, cs.drop n) else none

def longText (quote : Char) (piece : Step (List Char)) : Step (List Char) := do
  word [quote, quote, quote]
  let _ ← optional newline
  let parts ← all (piece <|> fewQuotes quote)
  let last ← closing quote
  pure (parts.flatten ++ last)

def longBasic : Step (List Char) :=
  longText '"' (run1 isPlain <|> continuation <|> (do let c ← escape; pure [c]) <|> softBreak)

def longVerbatim : Step (List Char) := longText '\x27' (run1 isVerbatim <|> softBreak)

def text : Step String :=
  String.ofList <$> (longBasic <|> basic <|> longVerbatim <|> verbatim)

def simpleKey : Step String := String.ofList <$> (basic <|> verbatim <|> run1 isBare)

def maxDepth : Nat := 80

def key : Step (List String) := do
  let path ← parted '.' (do
    spaces
    let k ← simpleKey
    spaces
    pure k)
  if path.length < maxDepth then pure path else failure

end Step

end Signalgrid.Toml
