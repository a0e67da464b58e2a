import IPsecControl.Log.Line
import IPsecControl.Log.Pattern
import IPsecControl.Number.Binary64
import IPsecControl.Text.Blank

/-! Directives of a log filter. A directive gives the highest rank shown, for all lines or for
some: those of the parts whose path begins in a given way, those that have a given value, and
those inside a given span, of which there are none. It is written as

`target[span{name=value}]=level`

where everything but the target or the level may be left out. -/
namespace IPsecControl.Log
open Text

/-- The highest limit. -/
def everything : Nat := 5

def limitNames : List (String × Nat) :=
  [("off", 0), ("error", 1), ("warn", 2), ("info", 3), ("debug", 4), ("trace", everything)]

/-- The limit that a number or a name in any case stands for. -/
def limit? (text : List Char) : Option Nat :=
  match (readBounded 10 (1 <<< 64 - 1) text).toOption with
  | some n => if n ≤ everything then some n else none
  | none => limitNames.lookup (String.ofList (text.map lowerAscii))

/-- A value that lines are asked for. -/
structure Demand where
  name : List Char
  /-- Whether the value is asked for, too, which only spans can answer. -/
  hasValue : Bool := false
  deriving DecidableEq, Repr

structure Directive where
  /-- How the paths of the parts begin. -/
  target : List Char := []
  /-- Whether it is about lines inside a span with a name. -/
  inSpan : Bool := false
  demand : Option Demand := none
  /-- The highest rank shown. -/
  limit : Nat := everything
  deriving DecidableEq, Repr

inductive DirectiveError where
  | malformed
  /-- A part of it ends inside of a character. -/
  | splitCharacter
  deriving DecidableEq, Repr

namespace Directive

/-! ### Places in a text -/

/-- What follows a number of bytes, which may not end inside of a character. -/
def dropBytes : Nat → List Char → Except DirectiveError (List Char)
  | 0, cs => .ok cs
  | _ + 1, [] => .error .splitCharacter
  | n + 1, c :: cs =>
    if n + 1 < c.utf8Size then .error .splitCharacter else dropBytes (n + 1 - c.utf8Size) cs

/-- As many characters as have a number of bytes, which may not end inside of a character. -/
def takeBytes (n : Nat) (cs : List Char) : Except DirectiveError (List Char) := do
  let rest ← dropBytes n cs
  return cs.take (cs.length - rest.length)

def between (low high : Nat) (cs : List Char) : Except DirectiveError (List Char) := do
  takeBytes (high - low) (← dropBytes low cs)

/-! ### Values -/

/-- A number with a point or an exponent, behind its sign. -/
def isFloat (cs : List Char) : Bool :=
  let mantissa := cs.takeWhile fun c => c ≠ 'e' && c ≠ 'E'
  let lower := String.ofList (cs.map lowerAscii)
  lower ∈ ["inf", "infinity", "nan"] ||
    (Binary64.read? mantissa).isSome &&
      match cs.drop mantissa.length with
      | [] => true
      | _ :: '+' :: ds | _ :: '-' :: ds | _ :: ds => !ds.isEmpty && ds.all Char.isDigit

/-- A number or a pattern. A plus sign can begin a number, but not a pattern; all other numbers
are patterns, too. -/
def isValue (cs : List Char) : Bool :=
  isPattern cs || (cs.head? == some '+' && isFloat (cs.drop 1))

/-- Reads what is asked of a line: a name, perhaps with an equals sign and a value. -/
def demandOf (text : List Char) : Except DirectiveError Demand :=
  let name := text.takeWhile (· ≠ '=')
  match text.drop name.length with
  | [] => if text.isEmpty then .error .malformed else .ok { name }
  | _ :: rest =>
    if isValue (rest.takeWhile (· ≠ '=')) then .ok { name, hasValue := true }
    else .error .malformed

/-! ### Reading -/

/-- Where a directive is being read, and since which place. -/
inductive Stage where
  | start
  /-- In a level or a target. -/
  | front
  | span (since : Nat)
  | demand (since : Nat)
  /-- Behind what is asked for. -/
  | demanded
  /-- Behind the brackets. -/
  | behind
  | level (since : Nat)
  deriving DecidableEq, Repr

def canBegin (c : Char) : Bool := c ∈ ['-', ':', '_'] || isAlphanumeric c

/-- Reads on with a character at a place. -/
def step (text : List Char) (d : Directive) (place : Nat) (c : Char) :
    Stage → Except DirectiveError (Directive × Stage)
  | .start =>
    if c = '[' then .ok (d, .span (place + 1))
    else if canBegin c then .ok (d, .front)
    else .error .malformed
  | .front => do
    if c = '=' then return ({ d with target := ← between 0 place text }, .level (place + 1))
    else if c = '[' then return ({ d with target := ← between 0 place text }, .span (place + 1))
    else return (d, .front)
  | .span since => do
    if c = ']' then
      let _ ← between since place text
      return ({ d with inSpan := true }, .behind)
    else if c = '\x7b' then
      return ({ d with inSpan := !(← between since place text).isEmpty }, .demand (place + 1))
    else return (d, .span since)
  | .demand since => do
    if c = '\x7d' then
      return ({ d with demand := some (← demandOf (← between since place text)) }, .demanded)
    else return (d, .demand since)
  | .demanded => if c = ']' then .ok (d, .behind) else .error .malformed
  | .behind => if c = '=' then .ok (d, .level (place + 1)) else .error .malformed
  | .level since => .ok (d, .level since)

def readFrom (text : List Char) : Nat → List Char → Directive × Stage →
    Except DirectiveError (Directive × Stage)
  | _, [], progress => .ok progress
  | place, c :: cs, (d, stage) => do
    readFrom text (place + c.utf8Size) cs (← step text d place c stage)

/-- Reads a directive. Its places are counted without the blanks around the text, but its parts
are taken at these places of the text with the blanks. -/
def parse (text : List Char) : Except DirectiveError Directive := do
  match ← readFrom text 0 (trim text) ({}, .start) with
  | (d, .front) =>
    match limit? text with
    | some limit => return { d with limit }
    | none => return { d with target := text }
  | (d, .level since) =>
    match ← dropBytes since text with
    | [] => return d
    | level =>
      match limit? level with
      | some limit => return { d with limit }
      | none => .error .malformed
  | (d, .behind) => return d
  | _ => .error .malformed

/-! ### Lines -/

/-- Whether lines outside of all spans can meet a directive. -/
def isStatic (d : Directive) : Bool := !d.inSpan && !d.demand.any (·.hasValue)

/-- Whether a line has a value of a name. The message is one. -/
def offers (line : Line) (name : List Char) : Bool :=
  name = ['m', 'e', 's', 's', 'a', 'g', 'e'] || line.fields.any (·.name.toList = name)

def concerns (d : Directive) (line : Line) : Bool :=
  d.isStatic && d.target.isPrefixOf line.part.path.toList &&
    d.demand.all fun demand => offers line demand.name

/-- Of two directives about a line, the first counts less than the other: its target is
shorter, or as long while the name that it asks for comes first. -/
def yieldsTo (a b : Directive) : Bool :=
  a.target.length < b.target.length ||
    a.target.length == b.target.length &&
      match a.demand, b.demand with
      | none, _ => true
      | some _, none => false
      | some a, some b => a.name = b.name || a.name < b.name

end Directive
end IPsecControl.Log
