import IPsecControl.Shell.Word

/-! What braces make of a parameter: its length, another text if it is empty or not set, or
its value without a part. -/
namespace IPsecControl.Shell

/-- What is done if a parameter has no value. -/
inductive Fallback where
  | use
  | assign
  | fail
  /-- The word is used if the parameter does have a value. -/
  | invert
  deriving DecidableEq, Repr

inductive Operation where
  | length
  /-- An empty value may count as none. -/
  | fallback (kind : Fallback) (emptyIsNone : Bool) (word : List Char)
  | dropFront (longest : Bool) (pattern : List Char)
  | dropEnd (longest : Bool) (pattern : List Char)
  deriving DecidableEq, Repr

def Fallback.ofSign? (c : Char) : Option Fallback :=
  match c with
  | '-' => some .use
  | '=' => some .assign
  | '?' => some .fail
  | '+' => some .invert
  | _ => none

def leadingName (cs : List Char) : List Char :=
  match cs with
  | [] => []
  | c :: _ =>
    if isNameStart c then cs.takeWhile isNameChar
    else if c.isDigit then cs.takeWhile Char.isDigit
    else if isSpecialParameter c then [c]
    else []

def operationBehind? (cs : List Char) : Option Operation :=
  match cs with
  | ':' :: c :: word => (Fallback.ofSign? c).map fun kind => .fallback kind true word
  | '%' :: '%' :: pattern => some (.dropEnd true pattern)
  | '%' :: pattern => some (.dropEnd false pattern)
  | '#' :: '#' :: pattern => some (.dropFront true pattern)
  | '#' :: pattern => some (.dropFront false pattern)
  | c :: word => (Fallback.ofSign? c).map fun kind => .fallback kind false word
  | [] => none

/-- The parameter and the operation of a text between braces. -/
def operation? (text : List Char) : Option (String × Operation) :=
  match text with
  | '#' :: c :: cs =>
    let name := leadingName (c :: cs)
    if name.length = (c :: cs).length then some (String.ofList name, .length) else behind text
  | _ => behind text
where
  behind (text : List Char) : Option (String × Operation) :=
    let name := leadingName text
    if name.isEmpty then none
    else (operationBehind? (text.drop name.length)).map (String.ofList name, ·)

end IPsecControl.Shell
