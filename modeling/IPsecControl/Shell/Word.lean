import IPsecControl.Shell.Quote

/-! Words of a command line. A word is read up to a blank or an operator outside quotes; its
pieces tell the characters from what the shell puts in their place. -/
namespace IPsecControl.Shell

/-- Part of a word, inside quotes or outside. -/
inductive Piece where
  /-- The beginning of a quoted part, which keeps a word from vanishing. -/
  | quotes
  | char (c : Char) (quoted : Bool)
  /-- The value of a parameter. -/
  | parameter (name : String) (quoted : Bool)
  /-- What the text between braces makes of a parameter. -/
  | braced (text : List Char) (quoted : Bool)
  /-- The value of an arithmetic expression. -/
  | arithmetic (text : List Char) (quoted : Bool)
  /-- The output of a script. -/
  | substitution (script : List Char) (quoted : Bool)
  deriving DecidableEq, Repr

abbrev Word := List Piece

inductive SyntaxError where
  | unterminatedQuote
  | unterminatedSubstitution
  | missingBrace
  | missingParentheses
  | badLoopVariable
  | badFunctionName
  | unexpected (token : String)
  /-- Another token than the one that has to follow. -/
  | expecting (token wanted : String)
  deriving DecidableEq, Repr

def SyntaxError.message : SyntaxError → String
  | .unterminatedQuote => "Unterminated quoted string"
  | .unterminatedSubstitution => "EOF in backquote substitution"
  | .missingBrace => "Missing '\x7d'"
  | .missingParentheses => "Missing '))'"
  | .badLoopVariable => "Bad for loop variable"
  | .badFunctionName => "Bad function name"
  | .unexpected token => token ++ " unexpected"
  | .expecting token wanted => token ++ " unexpected (expecting " ++ wanted ++ ")"

def isBlank (c : Char) : Bool := c == ' ' || c == '\t'

/-- Characters that end a word. -/
def endsWord (c : Char) : Bool :=
  isBlank c || c == '\n' || c == ';' || c == '&' || c == '|' || c == '<' || c == '>' || c == '(' ||
    c == ')'

def isNameStart (c : Char) : Bool := c.isAlpha || c == '_'
def isNameChar (c : Char) : Bool := isNameStart c || c.isDigit

/-- Parameters whose name is one character. -/
def isSpecialParameter (c : Char) : Bool :=
  c.isDigit || c == '?' || c == '$' || c == '#' || c == '@' || c == '*' || c == '!' || c == '-'

/-- The number of characters up to and with the one that closes the last of the open things,
each of which is given by the character that closes it, innermost first. -/
def extent? : List Char → List Char → Option Nat
  | [], _ => some 0
  | _ :: _, [] => none
  | close :: outer, c :: cs =>
    if c = close then (extent? outer cs).map (· + 1)
    else if close = '\'' then (extent? (close :: outer) cs).map (· + 1)
    else
      match c, cs with
      | '\\', _ :: cs => (extent? (close :: outer) cs).map (· + 2)
      | '$', '(' :: cs => (extent? (')' :: close :: outer) cs).map (· + 2)
      | '$', '\x7b' :: cs => (extent? ('\x7d' :: close :: outer) cs).map (· + 2)
      | '"', cs => (extent? ('"' :: close :: outer) cs).map (· + 1)
      | '\x60', cs => (extent? ('\x60' :: close :: outer) cs).map (· + 1)
      | '\'', cs =>
        (extent? (if close = '"' then close :: outer else '\'' :: close :: outer) cs).map (· + 1)
      | '(', cs =>
        (extent? (if close = ')' then ')' :: close :: outer else close :: outer) cs).map (· + 1)
      | _, cs => (extent? (close :: outer) cs).map (· + 1)
termination_by _ cs => cs.length

/-- What follows a dollar sign and a parenthesis: an arithmetic expression if it begins with
another parenthesis and both close together, a script otherwise. -/
def parenthesis (quoted : Bool) (cs : List Char) : Except SyntaxError (Piece × Nat) :=
  let script : Except SyntaxError (Piece × Nat) :=
    match extent? [')'] cs with
    | some n => .ok (.substitution (cs.take (n - 1)) quoted, n + 1)
    | none => .error (.expecting "end of file" "\")\"")
  match cs with
  | '(' :: inner =>
    match extent? [')', ')'] inner with
    | none => .error .missingParentheses
    | some n =>
      if (inner.take n).drop (n - 2) = [')', ')'] then
        .ok (.arithmetic (inner.take (n - 2)) quoted, n + 2)
      else script
  | _ => script

/-- What a dollar sign in front of the text begins, and how many characters that takes. -/
def dollar (quoted : Bool) (cs : List Char) : Except SyntaxError (Piece × Nat) :=
  match cs with
  | [] => .ok (.char '$' quoted, 0)
  | c :: rest =>
    if c = '(' then parenthesis quoted rest
    else if c = '\x7b' then
      match extent? ['\x7d'] rest with
      | none => .error .missingBrace
      | some n =>
        let text := rest.take (n - 1)
        let simple := match text with
          | [] => false
          | [c] => isNameChar c || isSpecialParameter c
          | _ => text.all isNameChar
        .ok (if simple then .parameter (String.ofList text) quoted else .braced text quoted, n + 1)
    else if isNameStart c then
      let name := cs.takeWhile isNameChar
      .ok (.parameter (String.ofList name) quoted, name.length)
    else if isSpecialParameter c then .ok (.parameter (String.singleton c) quoted, 1)
    else .ok (.char '$' quoted, 0)

/-- The script up to the closing backquote, and how many characters that takes. A backslash
in front of a backquote, a backslash, a dollar sign or, inside quotes, a quote goes away. -/
def backquoted? (quoted : Bool) : List Char → Option (List Char × Nat)
  | [] => none
  | '\\' :: c :: cs =>
    (backquoted? quoted cs).map fun (script, n) =>
      if c = backquote ∨ c = '\\' ∨ c = '$' ∨ (quoted ∧ c = '"') then (c :: script, n + 2)
      else ('\\' :: c :: script, n + 2)
  | c :: cs =>
    if c = backquote then some ([], 1)
    else (backquoted? quoted cs).map fun (script, n) => (c :: script, n + 1)

inductive Mode where
  | plain
  | single
  | double
  deriving DecidableEq, Repr

def putFront (piece : Piece) (read : Except SyntaxError (Word × List Char)) :
    Except SyntaxError (Word × List Char) :=
  read.map fun (word, rest) => (piece :: word, rest)

/-- Reads the rest of a word, and tells what follows it. -/
def readWord (mode : Mode) (cs : List Char) : Except SyntaxError (Word × List Char) :=
  match cs with
  | [] => if mode = .plain then .ok ([], []) else .error .unterminatedQuote
  | c :: rest =>
    match mode with
    | .single =>
      if c = '\'' then readWord .plain rest
      else putFront (.char c true) (readWord .single rest)
    | .double =>
      if c = '"' then readWord .plain rest
      else if c = '\\' then
        match rest with
        | [] => .error .unterminatedQuote
        | d :: rest =>
          if d = '\n' then readWord .double rest
          else if isSpecial d then putFront (.char d true) (readWord .double rest)
          else putFront (.char '\\' true) (putFront (.char d true) (readWord .double rest))
      else if c = '$' then
        match dollar true rest with
        | .ok (piece, n) => putFront piece (readWord .double (rest.drop n))
        | .error e => .error e
      else if c = backquote then
        match backquoted? true rest with
        | none => .error .unterminatedSubstitution
        | some (script, n) =>
          putFront (.substitution script true) (readWord .double (rest.drop n))
      else putFront (.char c true) (readWord .double rest)
    | .plain =>
      if endsWord c then .ok ([], c :: rest)
      else if c = '\'' then putFront .quotes (readWord .single rest)
      else if c = '"' then putFront .quotes (readWord .double rest)
      else if c = '\\' then
        match rest with
        | [] => .ok ([.char '\\' true], [])
        | d :: rest =>
          if d = '\n' then readWord .plain rest
          else putFront (.char d true) (readWord .plain rest)
      else if c = '$' then
        match dollar false rest with
        | .ok (piece, n) => putFront piece (readWord .plain (rest.drop n))
        | .error e => .error e
      else if c = backquote then
        match backquoted? false rest with
        | none => .error .unterminatedSubstitution
        | some (script, n) =>
          putFront (.substitution script false) (readWord .plain (rest.drop n))
      else putFront (.char c false) (readWord .plain rest)
termination_by cs.length
decreasing_by all_goals simp +arith

/-- The text of a word that the shell keeps as it is. -/
def literalText? : Word → Option (List Char)
  | [] => some []
  | .quotes :: word => literalText? word
  | .char c _ :: word => (literalText? word).map (c :: ·)
  | _ :: _ => none

/-- Puts a backslash in front of double quotes. -/
def maskQuotes : List Char → List Char
  | [] => []
  | '\\' :: '"' :: cs => '\\' :: '\\' :: '\\' :: '"' :: maskQuotes cs
  | '\\' :: c :: cs => '\\' :: c :: maskQuotes cs
  | '"' :: cs => '\\' :: '"' :: maskQuotes cs
  | c :: cs => c :: maskQuotes cs

/-- Reads a text in which dollar signs, backquotes and backslashes keep their meaning, and
double quotes do not. -/
def readText (cs : List Char) : Except SyntaxError Word :=
  (readWord .double (maskQuotes cs ++ ['"'])).map (·.1)

/-- Reads a text as one word, whatever ends words in it. -/
def readWhole : Nat → List Char → Except SyntaxError Word
  | 0, _ => .ok []
  | fuel + 1, cs =>
    match readWord .plain cs with
    | .error e => .error e
    | .ok (word, []) => .ok word
    | .ok (word, c :: rest) =>
      (readWhole fuel rest).map fun more => word ++ .char c false :: more

/-- A text without double quotes, those behind a backslash excepted. -/
def dropQuotes : List Char → List Char
  | [] => []
  | '\\' :: c :: cs => '\\' :: c :: dropQuotes cs
  | c :: cs => if c = '"' then dropQuotes cs else c :: dropQuotes cs

/-- Reads the word inside braces, which are quoted or not. -/
def readInside (quoted : Bool) (cs : List Char) : Except SyntaxError Word :=
  if quoted then readText (dropQuotes cs) else readWhole (cs.length + 1) cs

end IPsecControl.Shell
