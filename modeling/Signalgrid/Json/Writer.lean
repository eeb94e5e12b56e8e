import Signalgrid.Json.Basic
import Signalgrid.Decimal.Text

set_option autoImplicit false

namespace Signalgrid.Json

def hexDigit (n : Nat) : Char := (Nat.toDigits 16 n).headD '0'

def escapeChar (c : Char) : List Char :=
  match c with
  | '"' => ['\\', '"']
  | '\\' => ['\\', '\\']
  | '\x08' => ['\\', 'b']
  | '\x0c' => ['\\', 'f']
  | '\n' => ['\\', 'n']
  | '\r' => ['\\', 'r']
  | '\t' => ['\\', 't']
  | c =>
      if c.toNat < 0x20 then ['\\', 'u', '0', '0', hexDigit (c.toNat / 16), hexDigit (c.toNat % 16)]
      else [c]

def quoted (s : String) : String := "\"" ++ String.ofList (s.toList.flatMap escapeChar) ++ "\""

def scalarText : Json → String
  | .bool true => "true"
  | .bool false => "false"
  | .int n => toString n
  | .float x => Decimal.wire x
  | .str s => quoted s
  | _ => "null"

mutual

def writeTo (out : String) : Json → String
  | .arr items => writeItems (out ++ "[") true items ++ "]"
  | .obj members => writeMembers (out ++ "\x7b") true members ++ "\x7d"
  | j => out ++ scalarText j

def writeItems (out : String) (first : Bool) : List Json → String
  | [] => out
  | j :: rest => writeItems (writeTo (if first then out else out ++ ",") j) false rest

def writeMembers (out : String) (first : Bool) : List Member → String
  | [] => out
  | (k, j) :: rest =>
      writeMembers (writeTo ((if first then out else out ++ ",") ++ quoted k ++ ":") j) false rest

end

def compact (j : Json) : String := writeTo "" j

def newLine (indent : Nat) : String := String.ofList ('\n' :: List.replicate (2 * indent) ' ')

mutual

def writePretty (indent : Nat) (out : String) : Json → String
  | .arr [] => out ++ "[]"
  | .obj [] => out ++ "\x7b\x7d"
  | .arr (j :: rest) =>
      prettyItems (indent + 1) (writePretty (indent + 1) (out ++ "[" ++ newLine (indent + 1)) j) rest
        ++ newLine indent ++ "]"
  | .obj ((k, j) :: rest) =>
      prettyMembers (indent + 1)
        (writePretty (indent + 1) (out ++ "\x7b" ++ newLine (indent + 1) ++ quoted k ++ ": ") j) rest
        ++ newLine indent ++ "\x7d"
  | j => out ++ scalarText j

def prettyItems (indent : Nat) (out : String) : List Json → String
  | [] => out
  | j :: rest => prettyItems indent (writePretty indent (out ++ "," ++ newLine indent) j) rest

def prettyMembers (indent : Nat) (out : String) : List Member → String
  | [] => out
  | (k, j) :: rest =>
      prettyMembers indent (writePretty indent (out ++ "," ++ newLine indent ++ quoted k ++ ": ") j)
        rest

end

def pretty (j : Json) : String := writePretty 0 "" j

end Signalgrid.Json
