import IPsecControl.Shell.Word

/-! Tokens of a script: words, operators, and the texts that stand below a line as its input.
The last token is the end of the script, or the place from where it cannot be read. -/
namespace IPsecControl.Shell

inductive Lexeme where
  | word (w : Word)
  | operator (name : String)
  /-- The number in front of a redirection. -/
  | descriptor (n : Nat)
  /-- A text below the line. -/
  | document (text : Word)
  | broken (e : SyntaxError)
  | finish
  deriving DecidableEq, Repr

structure Token where
  lexeme : Lexeme
  /-- The line in which it ends. -/
  line : Nat
  deriving DecidableEq, Repr

/-- Operators, longer ones first. -/
def operators : List String :=
  ["&&", "||", ";;", "<<-", "<<", ">>", ">&", ">|", "<&", "<>", ";", "&", "|", "(", ")", "<", ">",
    "\n"]

def operator? (cs : List Char) : Option String :=
  operators.find? fun name => name.toList.isPrefixOf cs

/-- The number that a word of digits in front of a redirection stands for. -/
def descriptor? (word : Word) (rest : List Char) : Option Nat :=
  match rest.head?, word with
  | some '<', [.char c false] | some '>', [.char c false] =>
    if c.isDigit then some (c.toNat - 48) else none
  | _, _ => none

def isQuoted : Piece → Bool
  | .quotes | .char _ true => true
  | _ => false

/-- The lines up to one that is the given text, and what follows it. -/
def upTo (name : List Char) (withoutTabs : Bool) : Nat → List Char → List Char × List Char
  | 0, cs => (cs, [])
  | _ + 1, [] => ([], [])
  | fuel + 1, cs =>
    let line := cs.takeWhile (· ≠ '\n')
    let rest := cs.drop (line.length + 1)
    let line := if withoutTabs then line.dropWhile (· = '\t') else line
    if line = name then ([], rest)
    else
      let (body, rest) := upTo name withoutTabs fuel rest
      (line ++ '\n' :: body, rest)

/-- What an operator is called in an error. -/
def operatorShown (name : String) : String :=
  if name = "\n" then "newline"
  else if name.any fun c => c == '<' || c == '>' then "redirection"
  else "\"" ++ name ++ "\""

/-- The text below a line that is announced with a word, and the script without it. -/
def document (withoutTabs : Bool) (cs : List Char) : Except SyntaxError (Word × List Char) := do
  let cs := cs.dropWhile isBlank
  if let some name := operator? cs then throw (.unexpected (operatorShown name))
  if cs.isEmpty then throw (.unexpected "end of file")
  let (name, rest) ← readWord .plain cs
  let line := rest.takeWhile (· ≠ '\n')
  let below := rest.drop (line.length + 1)
  let (body, rest) := upTo ((literalText? name).getD []) withoutTabs (below.length + 1) below
  let text ← if name.any isQuoted then .ok (body.map (.char · true)) else readText body
  return (text, line ++ '\n' :: rest)

def lineBreaks (cs : List Char) : Nat := cs.countP (· = '\n')

/-- The tokens of a text from a line on; the fuel bounds their number. -/
def tokensWithin : Nat → Nat → List Char → List Token
  | 0, line, _ | _ + 1, line, [] => [⟨.finish, line⟩]
  | fuel + 1, line, c :: rest =>
    if isBlank c then tokensWithin fuel line rest
    else if c = '#' then tokensWithin fuel line (rest.dropWhile (· ≠ '\n'))
    else if c = '\\' ∧ rest.head? = some '\n' then tokensWithin fuel (line + 1) (rest.drop 1)
    else
      match operator? (c :: rest) with
      | some name =>
        let rest := (c :: rest).drop name.length
        if name = "<<" ∨ name = "<<-" then
          match document (name = "<<-") rest with
          | .ok (text, rest) =>
            ⟨.operator "<<", line⟩ :: ⟨.document text, line⟩ :: tokensWithin fuel line rest
          | .error e => [⟨.broken e, line⟩]
        else
          ⟨.operator name, line⟩ :: tokensWithin fuel (if name = "\n" then line + 1 else line) rest
      | none =>
        match readWord .plain (c :: rest) with
        | .error e => [⟨.broken e, line + lineBreaks rest⟩]
        | .ok (word, after) =>
          let lexeme := match descriptor? word after with
            | some n => .descriptor n
            | none => .word word
          let line := line + lineBreaks ((c :: rest).take (rest.length + 1 - after.length))
          ⟨lexeme, line⟩ :: tokensWithin fuel line after

def tokens (line : Nat) (cs : List Char) : List Token := tokensWithin (cs.length + 1) line cs

/-- Words that mean something at the beginning of a command. -/
def keywords : List String :=
  ["!", "case", "do", "done", "elif", "else", "esac", "fi", "for", "if", "in", "then", "until",
    "while", "\x7b", "\x7d"]

namespace Token

/-- The text of a word without quotes and substitutions. -/
def plain? (t : Token) : Option String :=
  match t.lexeme with
  | .word w => if w.any isQuoted then none else (literalText? w).map String.ofList
  | _ => none

def keyword? (t : Token) : Option String := t.plain?.filter (· ∈ keywords)

def is (t : Token) (name : String) : Bool :=
  t.lexeme == .operator name || t.keyword? == some name

def shown (t : Token) : String :=
  match t.lexeme with
  | .operator name => operatorShown name
  | .finish => "end of file"
  | _ =>
    match t.keyword? with
    | some name => "\"" ++ name ++ "\""
    | none => "word"

end Token
end IPsecControl.Shell
