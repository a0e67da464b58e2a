import IPsecControl.Shell.Printing
import IPsecControl.Shell.Word

/-! Arithmetic of the shell on signed numbers of 64 bits. An expression is evaluated while it
is read; a part that does not count is read without its effects. -/
namespace IPsecControl.Shell.Arithmetic
open Text

/-- A number of 64 bits with a sign. -/
def wrap (n : Int) : Int := n.bmod (1 <<< 64)

inductive Token where
  | number (n : Int)
  | name (text : String)
  | sign (text : String)
  deriving DecidableEq, Repr

inductive Fault where
  | divisionByZero
  | expecting (what : String)
  | illegalNumber (text : String)
  deriving DecidableEq, Repr

def Fault.message (expression : String) : Fault → String
  | .divisionByZero => "arithmetic expression: division by zero: \"" ++ expression ++ "\""
  | .expecting what => "arithmetic expression: expecting " ++ what ++ ": \"" ++ expression ++ "\""
  | .illegalNumber text => "Illegal number: " ++ text

/-- Signs, longer ones first. -/
def signs : List String :=
  ["<<=", ">>=", "<<", ">>", "<=", ">=", "==", "!=", "&&", "||", "+=", "-=", "*=", "/=", "%=",
    "&=", "|=", "^=", "+", "-", "*", "/", "%", "<", ">", "=", "!", "~", "&", "|", "^", "?", ":",
    "(", ")"]

/-- The value of digits, at most the largest number. -/
def digitsValue (base : Nat) (ds : List Char) : Int :=
  Nat.min (ds.foldl (fun n d => n * base + (digitValue? base d).getD 0) 0) (1 <<< 63 - 1)

/-- The number in front of a text, and how many characters it has. -/
def number (cs : List Char) : Int × Nat :=
  match cs with
  | '0' :: x :: rest =>
    let hex := rest.takeWhile fun c => (digitValue? 16 c).isSome
    if (x = 'x' ∨ x = 'X') ∧ hex ≠ [] then (digitsValue 16 hex, hex.length + 2)
    else
      let octal := (x :: rest).takeWhile isOctal
      (digitsValue 8 octal, octal.length + 1)
  | _ =>
    let ds := cs.takeWhile Char.isDigit
    (digitsValue 10 ds, ds.length)

def tokensWithin : Nat → List Char → List Token
  | 0, _ | _ + 1, [] => []
  | fuel + 1, c :: cs =>
    if isBlank c || c == '\n' then tokensWithin fuel cs
    else if c.isDigit then
      let (n, length) := number (c :: cs)
      .number n :: tokensWithin fuel ((c :: cs).drop length)
    else if isNameStart c then
      let name := (c :: cs).takeWhile isNameChar
      .name (String.ofList name) :: tokensWithin fuel ((c :: cs).drop name.length)
    else
      match signs.find? fun s => s.toList.isPrefixOf (c :: cs) with
      | some s => .sign s :: tokensWithin fuel ((c :: cs).drop s.length)
      | none => .sign (String.singleton c) :: tokensWithin fuel cs

/-- How tightly an operator with two sides binds. -/
def rank? (sign : String) : Option Nat :=
  match sign with
  | "|" => some 1
  | "^" => some 2
  | "&" => some 3
  | "==" | "!=" => some 4
  | "<" | ">" | "<=" | ">=" => some 5
  | "<<" | ">>" => some 6
  | "+" | "-" => some 7
  | "*" | "/" | "%" => some 8
  | _ => none

def bits (n : Int) : Nat := (n.emod (1 <<< 64 : Nat)).toNat

def truth (b : Bool) : Int := if b then 1 else 0

def apply (sign : String) (a b : Int) : Except Fault Int :=
  match sign with
  | "|" => .ok (wrap (bits a ||| bits b : Nat))
  | "^" => .ok (wrap (bits a ^^^ bits b : Nat))
  | "&" => .ok (wrap (bits a &&& bits b : Nat))
  | "==" => .ok (truth (a = b))
  | "!=" => .ok (truth (a ≠ b))
  | "<" => .ok (truth (a < b))
  | ">" => .ok (truth (b < a))
  | "<=" => .ok (truth (a ≤ b))
  | ">=" => .ok (truth (b ≤ a))
  | "<<" => .ok (wrap (a * (1 <<< (bits b % 64) : Nat)))
  | ">>" => .ok (a / (1 <<< (bits b % 64) : Nat))
  | "+" => .ok (wrap (a + b))
  | "-" => .ok (wrap (a - b))
  | "*" => .ok (wrap (a * b))
  | "/" => if b = 0 then .error .divisionByZero else .ok (wrap (a.tdiv b))
  | "%" => if b = 0 then .error .divisionByZero else .ok (wrap (a.tmod b))
  | _ => .ok b

/-- The variables, and the tokens left. -/
structure State where
  settings : List (String × String)
  tokens : List Token

abbrev Eval := StateT State (Except Fault)

def peek : Eval (Option Token) := return (← get).tokens.head?

def advance : Eval Unit := modify fun s => { s with tokens := s.tokens.drop 1 }

def skip (sign : String) : Eval Bool := do
  if (← peek) = some (.sign sign) then advance; return true
  else return false

def held (name : String) : Eval Int := do
  let text := ((← get).settings.lookup name).getD ""
  let cs := trimBlanks text.toList
  let (negative, ds) := match cs with
    | '-' :: ds => (true, ds)
    | '+' :: ds => (false, ds)
    | ds => (false, ds)
  if cs.isEmpty then return 0
  else
    let (n, length) := number ds
    if length = 0 ∨ length < ds.length then throw (.illegalNumber text)
    else return if negative then wrap (-n) else n
where
  trimBlanks (cs : List Char) : List Char :=
    ((cs.dropWhile isBlank).reverse.dropWhile isBlank).reverse

def assign (name : String) (n : Int) : Eval Unit :=
  modify fun s => { s with
    settings := (name, signedDecimal n) :: s.settings.filter (·.1 ≠ name) }

/-- The operator in a sign that assigns. -/
def assigning? (sign : String) : Option String :=
  if sign ∈ ["=", "+=", "-=", "*=", "/=", "%=", "&=", "|=", "^=", "<<=", ">>="] then
    some (String.ofList sign.toList.dropLast)
  else none

/-- Applies an operator if the part counts. -/
def applyIf (live : Bool) (sign : String) (a b : Int) : Eval Int :=
  if live then liftM (apply sign a b) else return 0

mutual

/-- A number, a variable, or an expression in parentheses, with signs in front. -/
def primary (live : Bool) : Nat → Eval Int
  | 0 => throw (.expecting "primary")
  | fuel + 1 => do
    match ← peek with
    | some (.number n) => advance; return n
    | some (.name name) => advance; if live then held name else return 0
    | some (.sign "(") =>
      advance
      let n ← assignment live fuel
      if ← skip ")" then return n else throw (.expecting "')'")
    | some (.sign "-") => advance; return wrap (-(← primary live fuel))
    | some (.sign "+") => advance; primary live fuel
    | some (.sign "~") => advance; return wrap (-(← primary live fuel) - 1)
    | some (.sign "!") => advance; return truth ((← primary live fuel) = 0)
    | _ => throw (.expecting "primary")

/-- Operators that bind at least as tightly as `least`, from the left. -/
def operations (live : Bool) (least : Nat) (left : Int) : Nat → Eval Int
  | 0 => throw (.expecting "primary")
  | fuel + 1 => do
    match ← peek with
    | some (.sign s) =>
      match rank? s with
      | none => return left
      | some r =>
        if r < least then return left
        else
          advance
          let right ← operations live (r + 1) (← primary live fuel) fuel
          operations live least (← applyIf live s left right) fuel
    | _ => return left

def conjunction (live : Bool) : Nat → Eval Int
  | 0 => throw (.expecting "primary")
  | fuel + 1 => do
    let left ← operations live 0 (← primary live fuel) fuel
    if ← skip "&&" then
      let right ← conjunction (live && left ≠ 0) fuel
      return truth (left ≠ 0 ∧ right ≠ 0)
    else return left

def disjunction (live : Bool) : Nat → Eval Int
  | 0 => throw (.expecting "primary")
  | fuel + 1 => do
    let left ← conjunction live fuel
    if ← skip "||" then
      let right ← disjunction (live && left = 0) fuel
      return truth (left ≠ 0 ∨ right ≠ 0)
    else return left

def conditional (live : Bool) : Nat → Eval Int
  | 0 => throw (.expecting "primary")
  | fuel + 1 => do
    let test ← disjunction live fuel
    if ← skip "?" then
      let first ← assignment (live && test ≠ 0) fuel
      if ← skip ":" then
        let second ← conditional (live && test = 0) fuel
        return if test ≠ 0 then first else second
      else throw (.expecting "':'")
    else return test

/-- An expression that may set a variable. -/
def assignment (live : Bool) : Nat → Eval Int
  | 0 => throw (.expecting "primary")
  | fuel + 1 => do
    match (← get).tokens with
    | .name name :: .sign s :: _ =>
      match assigning? s with
      | none => conditional live fuel
      | some operator =>
        advance; advance
        let right ← assignment live fuel
        if !live then return right
        else
          let n ← if operator = "" then pure right
            else applyIf live operator (← held name) right
          assign name n
          return n
    | _ => conditional live fuel

end

/-- The value of an expression, and the variables after it. -/
def evaluate (settings : List (String × String)) (text : List Char) :
    Except Fault (Int × List (String × String)) := do
  let tokens := tokensWithin (text.length + 1) text
  let (n, s) ← (assignment true (8 * tokens.length + 8)).run { settings, tokens }
  if s.tokens.isEmpty then return (n, s.settings) else throw (.expecting "EOF")

end IPsecControl.Shell.Arithmetic
