set_option autoImplicit false

namespace Signalgrid.CommandLine

inductive Refusal where
  | helpWanted
  | versionWanted
  | nothingGiven
  | missingSubcommand
  | unknownSubcommand
  | unknownArgument
  | missingArgument
  | conflict
  | tooManyValues
  | badChoice
  | badValue
deriving Repr, DecidableEq

inductive Arity where
  | flag
  | one
  | many
deriving Repr, DecidableEq

structure Param where
  name : String
  short : Option Char := none
  arity : Arity := .one
  check : String → Option Refusal := fun _ => none

structure Command where
  options : List Param := []
  places : List Param := []
  -- Options of which exactly one is to be given, if there are any.
  exclusive : List String := []
  versioned : Bool := false
  inner : List (String × Command) := []

namespace Command

def helper : String := "help"

def names (c : Command) : List String :=
  if c.inner.isEmpty then [] else helper :: c.inner.map Prod.fst

def inner? (c : Command) (name : String) : Option Command :=
  match c.inner.lookup name with
  | some d => some d
  | none => if name ∈ c.names then some {} else none

def helpOn : Command → List String → Refusal
  | _, [] => .helpWanted
  | c, name :: rest =>
      match c.inner? name with
      | some d => d.helpOn rest
      | none => .unknownSubcommand

end Command

abbrev Given := List (String × List String)

namespace Given

def values (g : Given) (name : String) : List String := (g.lookup name).getD []

def value? (g : Given) (name : String) : Option String := (g.values name).head?

def has (g : Given) (name : String) : Bool := (g.lookup name).isSome

end Given

structure Progress where
  given : Given := []
  -- Read last and not checked yet.
  pending : Option (Param × List String) := none
  -- Whether what is pending still lacks its value.
  awaiting : Bool := false
  placed : Nat := 0
  -- After a bare double dash everything is placed.
  literal : Bool := false

namespace Progress

abbrev Step := Except Refusal Progress

def splitList (value : String) : List String :=
  (value.toList.splitOnP (· == ',')).map String.ofList

def add (p : Progress) (param : Param) (values : List String) : Given :=
  if p.given.has param.name then
    p.given.map fun (name, old) => if name = param.name then (name, old ++ values) else (name, old)
  else p.given ++ [(param.name, values)]

def accept (p : Progress) (param : Param) (values : List String) : Step :=
  match param.arity with
  | .flag => if p.given.has param.name then .error .conflict else .ok { p with given := p.add param [] }
  | arity =>
      if values.isEmpty then .error .badChoice
      else if arity = .one ∧ p.given.has param.name then .error .conflict
      else
        let values := if arity = .many then values.flatMap splitList else values
        match values.findSome? param.check with
        | some refusal => .error refusal
        | none => .ok { p with given := p.add param values }

def settle (p : Progress) : Step :=
  match p.pending with
  | none => .ok p
  | some (param, values) => { p with pending := none, awaiting := false }.accept param values

def await (p : Progress) (param : Param) : Step := do
  let p ← p.settle
  .ok { p with pending := some (param, []), awaiting := true }

def attach (p : Progress) (param : Param) (value : String) : Step := do
  let p ← p.settle
  p.accept param [value]

def refuse (p : Progress) (r : Refusal) : Step := do
  let _ ← p.settle
  .error r

def long (c : Command) (p : Progress) (name : String) (value : Option String) : Step :=
  match c.options.find? (·.name == name) with
  | some param =>
      match param.arity, value with
      | .flag, some _ => .error .tooManyValues
      | .flag, none => do (← p.settle).accept param []
      | _, some v => p.attach param v
      | _, none => p.await param
  | none =>
      let special : Option Refusal :=
        if name = "help" then some .helpWanted
        else if name = "version" ∧ c.versioned then some .versionWanted
        else none
      match special, value with
      | some r, none => p.refuse r
      | some _, some _ => .error .tooManyValues
      | none, _ => .error .unknownArgument

def short (c : Command) (p : Progress) : List Char → Step
  | [] => .ok p
  | ch :: rest =>
      match c.options.find? (·.short == some ch) with
      | some param =>
          match rest with
          | [] => p.await param
          | '=' :: value => p.attach param (String.ofList value)
          | value => p.attach param (String.ofList value)
      | none =>
          if ch = 'h' then p.refuse .helpWanted
          else if ch = 'V' ∧ c.versioned then p.refuse .versionWanted
          else .error .unknownArgument

def unplaced (c : Command) (p : Progress) (arg : String) : Refusal :=
  if c.inner.isEmpty ∨ (p.literal ∧ arg ∈ c.names) then .unknownArgument else .unknownSubcommand

def place (c : Command) (p : Progress) (arg : String) : Step :=
  match c.places[p.placed]? with
  | some param => do
      let p ← p.settle
      .ok { p with pending := some (param, [arg]), placed := p.placed + 1 }
  | none => .error (p.unplaced c arg)

def fill (c : Command) (p : Progress) (arg : String) : Step :=
  match p.pending with
  | some (param, _) =>
      if p.awaiting then .ok { p with pending := some (param, [arg]), awaiting := false } else p.place c arg
  | none => p.place c arg

def splitLong (cs : List Char) : String × Option String :=
  match cs.dropWhile (· != '=') with
  | '=' :: value => (String.ofList (cs.takeWhile (· != '=')), some (String.ofList value))
  | _ => (String.ofList cs, none)

def take (c : Command) (p : Progress) (arg : String) : Step :=
  if p.literal then p.place c arg
  else
    match arg.toList with
    | ['-', '-'] => .ok { p with literal := true }
    | '-' :: '-' :: cs => let (name, value) := splitLong cs; p.long c name value
    | '-' :: ch :: rest => p.short c (ch :: rest)
    | _ => p.fill c arg

end Progress

def scan (c : Command) : Progress → List String → Except Refusal (Progress × Option (String × List String))
  | p, [] => .ok (p, none)
  | p, arg :: rest =>
      if !p.literal && !p.awaiting && c.names.contains arg then
        if arg = Command.helper then .error (c.helpOn rest) else .ok (p, some (arg, rest))
      else do scan c (← p.take c arg) rest

def complete (c : Command) (g : Given) (followed : Bool) : Except Refusal Given :=
  let chosen := (c.exclusive.filter g.has).length
  if !c.inner.isEmpty && !followed then
    .error (if g.isEmpty then .nothingGiven else .missingSubcommand)
  else if 1 < chosen then .error .conflict
  else if c.places.any (fun param => !g.has param.name) || (!c.exclusive.isEmpty && chosen = 0) then
    .error .missingArgument
  else .ok g

structure Level where
  name : String
  given : Given

def readWithin : Nat → String → Command → List String → Except Refusal (List Level)
  | 0, _, _, _ => .error .unknownSubcommand
  | fuel + 1, name, c, args => do
      let (p, next) ← scan c {} args
      let inner ← match next with
        | none => pure []
        | some (sub, rest) =>
            match c.inner.lookup sub with
            | some d => readWithin fuel sub d rest
            | none => .error .unknownSubcommand
      let p ← p.settle
      let g ← complete c p.given next.isSome
      pure (⟨name, g⟩ :: inner)

/-- Every level takes an argument, so there are no more levels than arguments and one. -/
def read (name : String) (c : Command) (args : List String) : Except Refusal (List Level) :=
  readWithin (args.length + 1) name c args

end Signalgrid.CommandLine
