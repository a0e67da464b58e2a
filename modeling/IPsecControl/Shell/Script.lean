import IPsecControl.Shell.Token

/-! Scripts. A line of a script is a list of pipelines with operators between them; a
pipeline joins commands. A command is a list of words, or is made of scripts. -/
namespace IPsecControl.Shell

/-- Where an output goes, or an input comes from. -/
inductive Redirect where
  | toFile (descriptor : Nat) (append : Bool) (file : Word)
  | fromFile (descriptor : Nat) (file : Word)
  | fromText (descriptor : Nat) (text : Word)
  | duplicate (descriptor : Nat) (source : Word)
  deriving DecidableEq, Repr

/-- Words and redirections, in order. -/
structure SimpleCommand where
  line : Nat := 1
  words : List Word := []
  redirects : List Redirect := []
  deriving DecidableEq, Repr

inductive Script where
  | nothing
  | simple (command : SimpleCommand)
  /-- A script that cannot change what the shell knows. -/
  | apart (body : Script)
  | background (body : Script)
  | redirected (line : Nat) (body : Script) (redirects : List Redirect)
  | negated (body : Script)
  | pipe (first second : Script)
  /-- The second runs if the first succeeds. -/
  | both (first second : Script)
  /-- The second runs if the first fails. -/
  | either (first second : Script)
  | sequence (first second : Script)
  | conditional (test first second : Script)
  /-- Runs the body as long as the test ends the same way. -/
  | loop (whileTrue : Bool) (test body : Script)
  /-- Runs the body for each word, or for each argument of the shell. -/
  | each (line : Nat) (name : String) (words : Option (List Word)) (body : Script)
  /-- Runs the first case that has a pattern for the word. -/
  | choice (line : Nat) (word : Word) (cases : List (List Word × Script))
  | definition (name : String) (body : Script)

/-- Why a script cannot be read, and in which line. -/
structure Fault where
  line : Nat
  error : SyntaxError
  deriving DecidableEq, Repr

namespace Script

/-- The error of a token that cannot stand here, where another may be expected. -/
def unexpectedAt (wanted? : Option String) : List Token → Fault
  | [] => ⟨1, .unexpected "end of file"⟩
  | t :: _ =>
    match t.lexeme, wanted? with
    | .broken e, _ => ⟨t.line, e⟩
    | _, none => ⟨t.line, .unexpected t.shown⟩
    | _, some wanted => ⟨t.line, .expecting t.shown wanted⟩

/-- Passes over an operator or a keyword. -/
def passing (name : String) : List Token → Except Fault (List Token)
  | [] => .error (unexpectedAt none [])
  | t :: ts =>
    if t.is name then .ok ts
    else .error (unexpectedAt (some ("\"" ++ name ++ "\"")) (t :: ts))

abbrev Parser (α : Type) := List Token → Except Fault (α × List Token)

def startsWith (name : String) (ts : List Token) : Bool := ts.head?.any (·.is name)

def dropNewlines (ts : List Token) : List Token := ts.dropWhile (·.is "\n")

/-- Whether a token ends a list of commands inside a command. -/
def endsList (ts : List Token) : Bool :=
  [")", ";;", "do", "done", "elif", "else", "esac", "fi", "then", "\x7d"].any (startsWith · ts)

def isFinished (ts : List Token) : Bool := ts.head?.any (·.lexeme = .finish)

def after (first? : Option Script) (second : Script) : Script :=
  match first? with
  | none => second
  | some first => .sequence first second

/-- The redirection that an operator makes of a word. -/
def redirect? (descriptor? : Option Nat) (name : String) (target : Lexeme) : Option Redirect :=
  match name, target with
  | ">", .word w | ">|", .word w | "<>", .word w => some (.toFile (descriptor?.getD 1) false w)
  | ">>", .word w => some (.toFile (descriptor?.getD 1) true w)
  | "<", .word w => some (.fromFile (descriptor?.getD 0) w)
  | "<<", .document w => some (.fromText (descriptor?.getD 0) w)
  | ">&", .word w => some (.duplicate (descriptor?.getD 1) w)
  | "<&", .word w => some (.duplicate (descriptor?.getD 0) w)
  | _, _ => none

def isRedirection (name : String) : Bool := name.any fun c => c == '<' || c == '>'

def redirection? : List Token → Except Fault (Option (Redirect × List Token))
  | ⟨.descriptor n, _⟩ :: ⟨.operator name, _⟩ :: rest => target (some n) name rest
  | ⟨.operator name, _⟩ :: rest => if isRedirection name then target none name rest else .ok none
  | _ => .ok none
where
  target (descriptor? : Option Nat) (name : String) (rest : List Token) :
      Except Fault (Option (Redirect × List Token)) :=
    match rest.head?.bind fun t => redirect? descriptor? name t.lexeme with
    | some r => .ok (some (r, rest.drop 1))
    | none => .error (unexpectedAt none rest)

def redirections : Nat → Parser (List Redirect)
  | 0, ts => .ok ([], ts)
  | fuel + 1, ts => do
    match ← redirection? ts with
    | none => return ([], ts)
    | some (r, rest) =>
      let (rs, rest) ← redirections fuel rest
      return (r :: rs, rest)

def simpleCommand : Nat → SimpleCommand → Parser SimpleCommand
  | 0, c, ts => .ok (c, ts)
  | fuel + 1, c, ts => do
    match ← redirection? ts with
    | some (r, rest) => simpleCommand fuel { c with redirects := c.redirects ++ [r] } rest
    | none =>
      match ts with
      | ⟨.word w, _⟩ :: rest => simpleCommand fuel { c with words := c.words ++ [w] } rest
      | _ => return (c, ts)

def withRedirects (fuel line : Nat) (body : Script) : Parser Script := fun ts => do
  match ← redirections fuel ts with
  | ([], rest) => return (body, rest)
  | (rs, rest) => return (.redirected line body rs, rest)

def wordRow : List Token → List Word × List Token
  | ⟨.word w, _⟩ :: rest => let (ws, rest) := wordRow rest; (w :: ws, rest)
  | ts => ([], ts)

def name? (t : Token) : Option String :=
  t.plain?.filter fun name => name.toList.head?.any isNameStart && name.toList.all isNameChar

/-- The patterns in front of a case. -/
def patterns : List Token → Except Fault (List Word × List Token)
  | ⟨.word w, _⟩ :: ⟨.operator "|", _⟩ :: rest => do
    let (ws, rest) ← patterns rest
    return (w :: ws, rest)
  | ⟨.word w, _⟩ :: rest => return ([w], ← passing ")" rest)
  | ts => .error (unexpectedAt (some "\")\"") ts)

mutual

def command : Nat → Parser Script
  | 0, ts => .error (unexpectedAt none ts)
  | fuel + 1, ts =>
    let line := (ts.head?.map (·.line)).getD 1
    let rest := ts.drop 1
    if startsWith "(" ts then do
      let (body, rest) ← list fuel none rest
      withRedirects rest.length line (.apart body) (← passing ")" rest)
    else if startsWith "\x7b" ts then do
      let (body, rest) ← list fuel none rest
      withRedirects rest.length line body (← passing "\x7d" rest)
    else if startsWith "if" ts then do
      let (body, rest) ← branches fuel rest
      withRedirects rest.length line body rest
    else if startsWith "while" ts || startsWith "until" ts then do
      let (test, rest) ← list fuel none rest
      let (body, rest) ← list fuel none (← passing "do" rest)
      withRedirects rest.length line (.loop (startsWith "while" ts) test body)
        (← passing "done" rest)
    else if startsWith "for" ts then do
      match rest.head?.bind name? with
      | none => .error ⟨line, .badLoopVariable⟩
      | some name =>
        let rest := dropNewlines (rest.drop 1)
        let (words, rest) ←
          if startsWith "in" rest then do
            let (words, rest) := wordRow (rest.drop 1)
            if startsWith ";" rest || startsWith "\n" rest then pure (some words, rest.drop 1)
            else .error (unexpectedAt none rest)
          else pure (none, if startsWith ";" rest then rest.drop 1 else rest)
        let (body, rest) ← list fuel none (← passing "do" (dropNewlines rest))
        withRedirects rest.length line (.each line name words body) (← passing "done" rest)
    else if startsWith "case" ts then do
      match rest with
      | ⟨.word w, _⟩ :: rest =>
        let (cases, rest) ← arms fuel (← passing "in" (dropNewlines rest))
        withRedirects rest.length line (.choice line w cases) rest
      | _ => .error (unexpectedAt (some "word") rest)
    else if ts.head?.any (·.keyword?.isSome) then .error (unexpectedAt none ts)
    else do
      let (c, rest) ← simpleCommand ts.length { line } ts
      if c.words.isEmpty ∧ c.redirects.isEmpty then .error (unexpectedAt none ts)
      else if startsWith "(" rest ∧ c.words.length = 1 ∧ c.redirects.isEmpty then
        let rest ← passing ")" (rest.drop 1)
        match ts.head?.bind name? with
        | none => .error ⟨line, .badFunctionName⟩
        | some name =>
          let (body, rest) ← command fuel (dropNewlines rest)
          return (.definition name body, rest)
      else return (.simple c, rest)

/-- What stands between `if` and `fi`, with the `fi`. -/
def branches : Nat → Parser Script
  | 0, ts => .error (unexpectedAt none ts)
  | fuel + 1, ts => do
    let (test, rest) ← list fuel none ts
    let (first, rest) ← list fuel none (← passing "then" rest)
    if startsWith "elif" rest then
      let (second, rest) ← branches fuel (rest.drop 1)
      return (.conditional test first second, rest)
    else if startsWith "else" rest then
      let (second, rest) ← list fuel none (rest.drop 1)
      return (.conditional test first second, ← passing "fi" rest)
    else return (.conditional test first .nothing, ← passing "fi" rest)

/-- The cases up to `esac`, with the `esac`. -/
def arms : Nat → Parser (List (List Word × Script))
  | 0, ts => .error (unexpectedAt none ts)
  | fuel + 1, ts => do
    let ts := dropNewlines ts
    if startsWith "esac" ts then return ([], ts.drop 1)
    else
      let (ws, rest) ← patterns (if startsWith "(" ts then ts.drop 1 else ts)
      let rest := dropNewlines rest
      let (body, rest) ← if endsList rest then pure (.nothing, rest) else list fuel none rest
      if startsWith "esac" rest then return ([(ws, body)], rest.drop 1)
      else
        let (more, rest) ← arms fuel (← passing ";;" rest)
        return ((ws, body) :: more, rest)

def pipes : Nat → Parser Script
  | 0, ts => .error (unexpectedAt none ts)
  | fuel + 1, ts => do
    let (first, rest) ← command fuel ts
    if startsWith "|" rest then
      let (second, rest) ← pipes fuel (dropNewlines (rest.drop 1))
      return (.pipe first second, rest)
    else return (first, rest)

/-- A pipeline, which an exclamation mark negates. -/
def pipeline : Nat → Parser Script
  | 0, ts => .error (unexpectedAt none ts)
  | fuel + 1, ts => do
    if startsWith "!" ts then
      let (body, rest) ← pipes fuel (ts.drop 1)
      return (.negated body, rest)
    else pipes fuel ts

/-- What follows a pipeline behind `&&` and `||`, which group to the left. -/
def conditions : Nat → Script → Parser Script
  | 0, _, ts => .error (unexpectedAt none ts)
  | fuel + 1, first, ts =>
    if startsWith "&&" ts then do
      let (second, rest) ← pipeline fuel (dropNewlines (ts.drop 1))
      conditions fuel (.both first second) rest
    else if startsWith "||" ts then do
      let (second, rest) ← pipeline fuel (dropNewlines (ts.drop 1))
      conditions fuel (.either first second) rest
    else .ok (first, ts)

/-- One entry of a list, behind those before it, and whether another can follow. -/
def entry : Nat → Option Script → Parser (Script × Bool)
  | 0, _, ts => .error (unexpectedAt none ts)
  | fuel + 1, before?, ts => do
    let (first, rest) ← pipeline fuel ts
    let (next, rest) ← conditions fuel first rest
    if startsWith "&" rest then return ((after before? (.background next), true), rest.drop 1)
    else if startsWith ";" rest then return ((after before? next, true), rest.drop 1)
    else return ((after before? next, startsWith "\n" rest), rest)

/-- The list of commands inside a command. -/
def list : Nat → Option Script → Parser Script
  | 0, _, ts => .error (unexpectedAt none ts)
  | fuel + 1, before?, ts => do
    let ts := dropNewlines ts
    if isFinished ts then return (before?.getD .nothing, ts)
    else if before?.isSome && endsList ts then return (before?.getD .nothing, ts)
    else
      let ((next, more), rest) ← entry fuel before? ts
      if more then list fuel (some next) rest else return (next, rest)

def line : Nat → Option Script → Parser Script
  | 0, _, ts => .error (unexpectedAt none ts)
  | fuel + 1, before?, ts => do
    if startsWith "\n" ts then return (before?.getD .nothing, ts.drop 1)
    else if isFinished ts then return (before?.getD .nothing, ts)
    else
      let ((next, more), rest) ← entry fuel before? ts
      if more then line fuel (some next) rest
      else if isFinished rest then return (next, rest)
      else .error (unexpectedAt none rest)

end

/-- The first line of a script, and the tokens behind it. -/
def firstLine (ts : List Token) : Except Fault (Script × List Token) :=
  line (6 * ts.length + 6) none ts

end Script
end IPsecControl.Shell
