import Signalgrid.Json.Reader
import Signalgrid.Decimal.Text
import Signalgrid.Text.Quoted
import Signalgrid.Time.Reader
import Signalgrid.Time.Text

set_option autoImplicit false

namespace Signalgrid

inductive DecodeFault where
  | missingField (name : String)
  | duplicateField (name : String)
  | invalidType (found expected : String)
  | invalidValue (found expected : String)
  | unknownVariant (name : String) (known : List String)
  | invalidLength (length : Nat) (expected : String)
  | surplus
  | noValue
  | badTime (fault : TimeFault)
deriving Repr, DecidableEq

namespace DecodeFault

def ticked (s : String) : String := "`" ++ s ++ "`"

def oneOf : List String → String
  | [] => "there are no variants"
  | [a] => "expected " ++ ticked a
  | [a, b] => "expected " ++ ticked a ++ " or " ++ ticked b
  | names => "expected one of " ++ String.intercalate ", " (names.map ticked)

def message : DecodeFault → String
  | .missingField name => "missing field " ++ ticked name
  | .duplicateField name => "duplicate field " ++ ticked name
  | .invalidType found expected => "invalid type: " ++ found ++ ", expected " ++ expected
  | .invalidValue found expected => "invalid value: " ++ found ++ ", expected " ++ expected
  | .unknownVariant name known => "unknown variant " ++ ticked name ++ ", " ++ oneOf known
  | .invalidLength n expected => "invalid length " ++ toString n ++ ", expected " ++ expected
  | .surplus => "trailing characters"
  | .noValue => "expected value"
  | .badTime fault => fault.message

end DecodeFault

/-- Sources differ in what they take for an enumeration or an empty value, and in what they say of
surplus items. -/
inductive Source where
  | text
  | aside
  | tree
  | table
deriving Repr, DecidableEq

abbrev Decoder (α : Type) := Source → Json → Except DecodeFault α

namespace Decode

def describe : Json → String
  | .null => "null"
  | .bool b => "boolean " ++ DecodeFault.ticked (if b then "true" else "false")
  | .int n => "integer " ++ DecodeFault.ticked (toString n)
  | .float x => "floating point " ++ DecodeFault.ticked (Decimal.wire x)
  | .str s => "string " ++ Text.quoted s
  | .arr _ => "sequence"
  | .obj _ => "map"

def mismatch {α : Type} (j : Json) (expected : String) : Except DecodeFault α :=
  .error (.invalidType (describe j) expected)

def textOf (expected : String) : Decoder String
  | _, .str s => .ok s
  | _, j => mismatch j expected

def string : Decoder String := textOf "a string"

def integer (low high : Int) (name : String) : Decoder Int
  | _, .int n => if low ≤ n ∧ n < high then .ok n else .error (.invalidValue (describe (.int n)) name)
  | _, j => mismatch j name

def unsigned (high : Nat) (name : String) : Decoder Nat := fun s j =>
  (integer 0 high name s j).map Int.toNat

def u32 : Decoder Nat := unsigned 4294967296 "u32"
def u64 : Decoder Nat := unsigned 18446744073709551616 "u64"
def size : Decoder Nat := unsigned 18446744073709551616 "usize"
def i64 : Decoder Int := integer (-9223372036854775808) 9223372036854775808 "i64"

def number : Decoder Float
  | _, .float x => .ok x
  | _, .int n => .ok (Float.ofInt n)
  | _, j => mismatch j "f64"

def tree : Decoder Json := fun _ j => .ok j.canonical

def instant : Decoder Instant
  | _, .str s => (Instant.ofRelaxed s).mapError .badTime
  | _, j => mismatch j "an RFC 3339 formatted date and time string"

def option {α : Type} (d : Decoder α) : Decoder (Option α)
  | _, .null => .ok none
  | s, j => (d s j).map some

def list {α : Type} (d : Decoder α) : Decoder (List α)
  | s, .arr items => items.mapM (d s)
  | _, j => mismatch j "a sequence"

def unit : Decoder Unit
  | _, .null => .ok ()
  | .aside, .obj [] => .ok ()
  | .table, .obj [] => .ok ()
  | .table, .arr [] => .ok ()
  | _, j => mismatch j "unit"

def variantNamed {α : Type} (variants : List (String × α)) (name : String) : Except DecodeFault α :=
  match variants.lookup name with
  | some a => .ok a
  | none => .error (.unknownVariant name (variants.map Prod.fst))

def variant {α β : Type} (names : List (String × α)) (bare : α → Except DecodeFault β)
    (holding : Source → α → Json → Except DecodeFault β) : Decoder β
  | _, .str name => do bare (← variantNamed names name)
  | .text, .obj ((name, j) :: rest) => do
      let b ← holding .text (← variantNamed names name) j
      if rest.isEmpty then .ok b else .error .noValue
  | .text, _ => .error .noValue
  | s, .obj [(name, j)] => do holding s (← variantNamed names name) j
  | _, .obj _ => .error (.invalidValue "map" "map with a single key")
  | _, j => mismatch j "string or map"

def choice {α : Type} (names : List (String × α)) : Decoder α :=
  variant names .ok fun s a j => (unit s j).map fun _ => a

inductive Absent (α : Type) where
  | required
  -- may be missing by name, but not from the end of a list
  | optional (a : α)
  | default (a : α)

structure Given where
  find : Nat → String → Option Json
  named : Bool
  fault : Nat → String → DecodeFault

structure Fields (α : Type) where
  names : List (String × (Source → Json → Option DecodeFault))
  build : Source → Given → Except DecodeFault α

def faultOf {α : Type} (d : Decoder α) (s : Source) (j : Json) : Option DecodeFault :=
  match d s j with
  | .ok _ => none
  | .error e => some e

def Fields.of {α : Type} (a : α) : Fields α := ⟨[], fun _ _ => .ok a⟩

def absentValue {β : Type} (g : Given) (i : Nat) (name : String) : Absent β → Except DecodeFault β
  | .required => .error (g.fault i name)
  | .optional b => if g.named then .ok b else .error (g.fault i name)
  | .default b => .ok b

def Fields.field {α β : Type} (f : Fields (β → α)) (name : String) (d : Decoder β)
    (absent : Absent β) : Fields α where
  names := f.names ++ [(name, faultOf d)]
  build s g := do
    let h ← f.build s g
    let b ← match g.find f.names.length name with
      | some j => d s j
      | none => absentValue g f.names.length name absent
    .ok (h b)

def Fields.needs {α β : Type} (f : Fields (β → α)) (name : String) (d : Decoder β) : Fields α :=
  f.field name d .required

def Fields.mayHave {α β : Type} (f : Fields (Option β → α)) (name : String) (d : Decoder β) : Fields α :=
  f.field name (option d) (.optional none)

def Fields.orNone {α β : Type} (f : Fields (Option β → α)) (name : String) (d : Decoder β) : Fields α :=
  f.field name (option d) (.default none)

def Fields.orElse {α β : Type} (f : Fields (β → α)) (name : String) (d : Decoder β) (b : β) : Fields α :=
  f.field name d (.default b)

def memberFault (names : List (String × (Source → Json → Option DecodeFault))) (s : Source) :
    List String → List Json.Member → Option DecodeFault
  | _, [] => none
  | seen, (key, j) :: rest =>
      match names.lookup key with
      | none => memberFault names s seen rest
      | some check =>
          if key ∈ seen then some (.duplicateField key)
          else match check s j with
            | some e => some e
            | none => memberFault names s (key :: seen) rest

def elements (n : Nat) : String := toString n ++ if n = 1 then " element" else " elements"

def surplusFault (s : Source) (given wanted : Nat) : DecodeFault :=
  match s with
  | .text => .surplus
  | .tree => .invalidLength given "fewer elements in array"
  | _ => .invalidLength given (elements wanted ++ " in sequence")

def record {α : Type} (name : String) (fields : Fields α) : Decoder α
  | s, .obj members =>
      match memberFault fields.names s [] members with
      | some e => .error e
      | none => fields.build s ⟨fun _ key => members.lookup key, true, fun _ key => .missingField key⟩
  | s, .arr items => do
      let wanted := fields.names.length
      let a ← fields.build s
        ⟨fun i _ => items[i]?, false, fun i _ => .invalidLength i (name ++ " with " ++ elements wanted)⟩
      -- A table file is not asked for what it has too much.
      if wanted < items.length ∧ s ≠ .table then .error (surplusFault s items.length wanted) else .ok a
  | _, j => mismatch j name

def nothing {α : Type} (a : α) : Decoder α
  | s, .arr (i :: rest) => .error (surplusFault s (i :: rest).length 0)
  | _, _ => .ok a

def tagName {α : Type} (variants : List (String × α)) : Decoder α
  | _, .str name => variantNamed variants name
  | .aside, .int n =>
      if n < 0 then mismatch (.int n) "variant identifier"
      else match variants[n.toNat]? with
        | some v => .ok v.2
        | none =>
          .error (.invalidValue (describe (.int n)) ("variant index 0 <= i < " ++ toString variants.length))
  | _, j => mismatch j "variant identifier"

def splitTag {α : Type} (tag : String) (variants : List (String × α)) (s : Source) :
    Option α → List Json.Member → List Json.Member → Except DecodeFault (α × List Json.Member)
  | none, _, [] => .error (.missingField tag)
  | some a, others, [] => .ok (a, others.reverse)
  | found, others, (key, j) :: rest =>
      if key = tag then
        match found with
        | some _ => .error (.duplicateField tag)
        | none => do splitTag tag variants s (some (← tagName variants s j)) others rest
      else splitTag tag variants s found ((key, j) :: others) rest

def tagged {α : Type} (tag name : String) (variants : List (String × Decoder α)) : Decoder α
  | s, .obj members => do
      let (d, others) ← splitTag tag variants s none [] members
      d .aside (.obj others)
  | _, .arr [] => .error (.missingField tag)
  | s, .arr (t :: items) => do
      let d ← tagName variants s t
      d .aside (.arr items)
  | _, j => mismatch j ("internally tagged enum " ++ name)

structure Content (α : Type) where
  decode : Decoder α
  missing : Option α

def Content.map {α β : Type} (f : α → β) (d : Decoder α) : Content β :=
  ⟨fun s j => (d s j).map f, none⟩

def pairName {α : Type} (variants : List (String × Content α)) (s : Source) (j : Json) :
    Except DecodeFault (Content α) := choice variants s j

def adjacent {α : Type} (tag content name : String) (variants : List (String × Content α)) : Decoder α
  | s, .obj members =>
      let relevant := members.filter fun m => m.1 = tag ∨ m.1 = content
      let excess (rest : List Json.Member) (a : α) : Except DecodeFault α :=
        match rest with
        | [] => .ok a
        | m :: _ => .error (.duplicateField m.1)
      match relevant with
      | [] => .error (.missingField tag)
      | [(key, j)] =>
          if key = tag then do
            match (← pairName variants s j).missing with
            | some a => .ok a
            | none => .error (.missingField content)
          else .error (.missingField tag)
      | (k₁, j₁) :: (k₂, j₂) :: rest =>
          if k₁ = tag then do
            let c ← pairName variants s j₁
            if k₂ = tag then .error (.duplicateField tag)
            else do excess rest (← c.decode s j₂)
          else if k₂ = tag then do
            let c ← pairName variants s j₂
            excess rest (← c.decode .aside j₁)
          else .error (.duplicateField content)
  | s, .arr items =>
      let expected := "adjacently tagged enum " ++ name
      match items with
      | [] => .error (.invalidLength 0 expected)
      | [t] => do
          let _ ← pairName variants s t
          .error (.invalidLength 1 expected)
      | t :: j :: rest => do
          let c ← pairName variants s t
          let a ← c.decode s j
          if rest.isEmpty then .ok a else .error (surplusFault s items.length 2)
  | _, j => mismatch j ("adjacently tagged enum " ++ name)

end Decode

inductive ReadFault where
  | notJson
  | malformed (fault : DecodeFault)
deriving Repr, DecidableEq

def ReadFault.message : ReadFault → String
  | .notJson => "<json>"
  | .malformed fault => fault.message

def Decoder.ofText {α : Type} (d : Decoder α) (cs : List Char) : Except ReadFault α :=
  match Json.read cs with
  | none => .error .notJson
  | some j => (d .text j).mapError .malformed

end Signalgrid
