import Signalgrid.Toml.Scalar
import Signalgrid.Toml.Table

set_option autoImplicit false

namespace Signalgrid.Toml

structure Entry where
  path : List String
  key : String
  value : Json

namespace Step

def ofOption {α : Type} : Option α → Step α
  | some a => pure a
  | none => failure

def splitKey (parts : List String) : Step (List String × String) :=
  match parts.reverse with
  | last :: front => pure (front.reverse, last)
  | [] => failure

def entry (value : Step Json) : Step Entry := do
  let (path, key) ← splitKey (← key)
  skip '='
  spaces
  let j ← value
  pure ⟨path, key, j⟩

def array (value : Step Json) : Step Json := do
  skip '['
  let items ← optional (do
    let items ← parted ',' (do
      gap
      let j ← value
      gap
      pure j)
    let _ ← optional (skip ',')
    pure items)
  gap
  skip ']'
  pure (.arr (items.getD []))

def collect (entries : List Entry) : Step Json :=
  ofOption ((entries.foldlM (fun (t : Entries) e => t.put e.path e.key e.value) []).map fun t =>
    .obj (Node.entriesJson t))

def inline (value : Step Json) : Step Json := do
  skip '\x7b'
  let entries ← optional (parted ',' (do
    let e ← entry value
    spaces
    pure e))
  spaces
  skip '\x7d'
  collect (entries.getD [])

def valueWithin : Nat → Step Json
  | 0 => failure
  | 1 => scalar
  | depth + 2 => scalar <|> array (valueWithin (depth + 1)) <|> inline (valueWithin (depth + 1))

def value : Step Json := valueWithin maxDepth

end Step

structure Draft where
  entries : Entries
  current : List String

namespace Draft

open Step

def header (d : Draft) : Step Draft := do
  skip '['
  let path ← key
  skip ']'
  lineEnd
  let (front, last) ← splitKey path
  let entries ← ofOption (d.entries.start Entries.openTable front last)
  pure ⟨entries, path⟩

def rowHeader (d : Draft) : Step Draft := do
  word ['[', '[']
  let path ← key
  word [']', ']']
  lineEnd
  let (front, last) ← splitKey path
  let entries ← ofOption (d.entries.start Entries.openRow front last)
  pure ⟨entries, path⟩

def assignment (d : Draft) : Step Draft := do
  let e ← entry value
  lineEnd
  let entries ← ofOption (d.entries.putBelow d.current e.path e.key e.value)
  pure { d with entries := entries }

def blankLine (d : Draft) : Step Draft := do
  lineEnd
  pure d

def line (d : Draft) : Step Draft := do
  spaces
  blankLine d <|> rowHeader d <|> header d <|> assignment d

/-- Every line takes at least a character. -/
def linesWithin : Nat → Draft → List Char → Option Draft
  | _, d, [] => some d
  | 0, _, _ => none
  | fuel + 1, d, cs => do
      let (d, rest) ← line d cs
      linesWithin fuel d rest

end Draft

def dropMark : List Char → List Char
  | '\uFEFF' :: rest => rest
  | cs => cs

def read (cs : List Char) : Option Json :=
  let cs := dropMark cs
  (Draft.linesWithin (cs.length + 1) ⟨[], []⟩ cs).map fun d => .obj (Node.entriesJson d.entries)

end Signalgrid.Toml
