import IPsecControl.CommandLine.Failure

/-! Reading arguments. An option takes its value from the same argument or from the next one;
the value is looked at when the next option comes, or at the end. Options in front of the
command are looked at only when everything behind it has been. -/
namespace IPsecControl.CommandLine

inductive Argument where
  /-- Two hyphens, which end the options. -/
  | escape
  | long (name : String) (value : Option String)
  /-- A letter behind one hyphen, and what follows it. -/
  | short (letter : Char) (rest : List Char)
  | plain (text : String)
  deriving DecidableEq, Repr

def Argument.ofText (text : String) : Argument :=
  match text.toList with
  | ['-', '-'] => .escape
  | '-' :: '-' :: cs =>
    let name := cs.takeWhile (· ≠ '=')
    .long (.ofList name) <| match cs.drop name.length with
      | [] => none
      | _ :: value => some (.ofList value)
  | '-' :: c :: cs => .short c cs
  | _ => .plain text

/-- The value that follows a letter, with or without an equals sign. -/
def attached? : List Char → Option String
  | [] => none
  | '=' :: cs => some (.ofList cs)
  | cs => some (.ofList cs)

structure Setting where
  opt : Opt
  value : opt.kind.Value

abbrev Settings := List Setting

namespace Settings

def isSet (s : Settings) (o : Opt) : Bool := s.any (·.opt = o)

def values : Settings → (o : Opt) → List o.kind.Value
  | [], _ => []
  | s :: rest, o => if h : s.opt = o then (h ▸ s.value) :: values rest o else values rest o

def value? (s : Settings) (o : Opt) : Option o.kind.Value := (s.values o).head?

/-- Gives an option. Only options for lists of names can be given again. -/
def put (s : Settings) (o : Opt) (text : String) : Except Failure Settings :=
  if o.kind ≠ .names ∧ s.isSet o then .error (.repeated o)
  else
    match o.kind.read text with
    | .ok value => .ok (s ++ [⟨o, value⟩])
    | .error .empty => .error (.noValue o)
    | .error (.because reason) => .error (.invalidValue o text reason)

/-- The options that were given, each once. -/
def opts (s : Settings) : List Opt := (s.map (·.opt)).eraseDups

/-- The first option that clashes with others, and these. -/
def clash? (s : Settings) : Option Failure :=
  s.opts.findSome? fun o =>
    match s.opts.filter o.clashes with
    | [] => none
    | others => some (.conflict o others)

end Settings

/-- An option whose value comes next, or has just come. -/
structure Pending where
  opt : Opt
  value : Option String
  deriving DecidableEq, Repr

/-- What has been read at a level. -/
structure Reading where
  settings : Settings := []
  pending : Option Pending := none

namespace Reading

/-- The next argument may be a value. -/
def awaits (r : Reading) : Bool :=
  match r.pending with
  | some p => p.value.isNone
  | none => false

/-- Looks at the value of the last option. -/
def settle (r : Reading) : Except Failure Settings :=
  match r.pending with
  | none => .ok r.settings
  | some ⟨o, some text⟩ => r.settings.put o text
  | some ⟨o, none⟩ => .error (.noValue o)

/-- Reads an option that takes no value. -/
def flag (r : Reading) (o : Opt) : Except Failure Reading := do
  let settings ← r.settle
  if o = .help then .error .help
  else if o = .version then .error .version
  else return { settings := ← settings.put o "" }

/-- Reads an option that takes a value. -/
def option (r : Reading) (o : Opt) (value : Option String) : Except Failure Reading := do
  let settings ← r.settle
  match value with
  | some text => return { settings := ← settings.put o text }
  | none => return { settings, pending := some ⟨o, none⟩ }

def long (level : Level) (r : Reading) (name : String) (value : Option String) :
    Except Failure Reading :=
  match level.named? name, value with
  | none, _ => .error (.unknownArgument ("--" ++ name))
  | some o, some text =>
    if o.kind = .flag then .error (.needlessValue o text) else r.option o value
  | some o, none => if o.kind = .flag then r.flag o else r.option o none

def short (level : Level) (r : Reading) (letter : Char) (rest : List Char) :
    Except Failure Reading :=
  match level.lettered? letter with
  | none => .error (.unknownArgument ("-" ++ String.singleton letter))
  | some o => if o.kind = .flag then r.flag o else r.option o (attached? rest)

def plain (level : Level) (r : Reading) (text : String) : Except Failure Reading :=
  match r.pending, level with
  | some ⟨o, none⟩, _ => .ok { r with pending := some ⟨o, some text⟩ }
  | _, .top => .error (.unknownSubcommand text)
  | _, .inside _ => .error (.unknownArgument text)

end Reading

/-- The name of the command that tells about the others. -/
def helpName : String := "help"

def helpAbout : List String → Failure
  | [] => .help
  | name :: rest =>
    if (Verb.ofName? name).isSome || name = helpName then
      match rest with
      | [] => .help
      | other :: _ => .unknownSubcommand other
    else .unknownSubcommand name

/-- The mistake of an argument behind two hyphens. -/
def behindEscape (level : Level) (text : String) : Failure :=
  match level with
  | .top =>
    if (Verb.ofName? text).isSome || text = helpName then .unknownArgument text
    else .unknownSubcommand text
  | .inside _ => .unknownArgument text

/-- Reads arguments at a level, up to a command and the arguments behind it. -/
def read (level : Level) :
    Reading → List String → Except Failure (Reading × Option (Verb × List String))
  | r, [] => .ok (r, none)
  | r, text :: rest => do
    if level = .top ∧ !r.awaits then
      if text = helpName then .error (helpAbout rest)
      if let some verb := Verb.ofName? text then return (r, some (verb, rest))
    match Argument.ofText text with
    | .escape =>
      match rest with
      | [] => return (r, none)
      | stray :: _ => .error (behindEscape level stray)
    | .long name value => read level (← r.long level name value) rest
    | .short letter value => read level (← r.short level letter value) rest
    | .plain text => read level (← r.plain level text) rest

/-- Reads the arguments behind a command. Options may not clash. -/
def readInside (verb : Verb) (args : List String) : Except Failure Settings := do
  let (r, _) ← read (.inside verb) {} args
  let settings ← r.settle
  match settings.clash? with
  | some failure => .error failure
  | none => return settings

end IPsecControl.CommandLine
