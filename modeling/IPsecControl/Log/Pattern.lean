import IPsecControl.Text.Alphanumeric
import IPsecControl.Text.Decimal
import IPsecControl.Text.DigitClass
import IPsecControl.Text.Scan

/-! Which texts are patterns for values. A pattern has groups in parentheses, alternatives,
repetitions, sets of characters in brackets, and characters with a special sense behind a
backslash. Nothing is ever matched here, so a pattern is no more than a text of this form. -/
namespace IPsecControl.Log.Pattern
open Text

inductive Escaped where
  | character (c : Char)
  /-- Any character of a class. -/
  | any
  /-- The beginning or the end of the text. -/
  | place
  deriving DecidableEq, Repr

/-- The characters that letters behind a backslash stand for. -/
def controls : List (Char × Char) :=
  [('a', '\x07'), ('f', '\x0c'), ('t', '\t'), ('n', '\n'), ('r', '\x0d'), ('v', '\x0b')]

/-- The character with a number of so many hexadecimal digits, and what follows them. -/
def numbered? (count : Nat) (cs : List Char) : Option (Escaped × List Char) :=
  match cs.take count |>.mapM (digitValue? 16) with
  | none => none
  | some ds =>
    let n := ds.foldl (fun n d => n * 16 + d) 0
    if ds.length = count ∧ n.isValidChar then some (.character (.ofNat n), cs.drop count) else none

/-- Reads what stands behind a backslash. A character without a sense of its own stands for
itself, but letters and digits are kept back, and so are the ends of words. -/
def escaped? : List Char → Option (Escaped × List Char)
  | [] => none
  | c :: cs =>
    if c ∈ ['d', 'D', 's', 'S', 'w', 'W'] then some (.any, cs)
    else if c = 'p' ∨ c = 'P' then
      match cs with
      | category :: rest =>
        if category.toLower ∈ ['c', 'l', 'm', 'n', 'p', 's', 'z'] then some (.any, rest) else none
      | [] => none
    else if c = 'A' ∨ c = 'z' then some (.place, cs)
    else if c = 'x' then numbered? 2 cs
    else if c = 'u' then numbered? 4 cs
    else if c = 'U' then numbered? 8 cs
    else
      match controls.lookup c with
      | some control => some (.character control, cs)
      | none =>
        if c.isAlphanum ∨ c = '<' ∨ c = '>' ∨ 0x80 ≤ c.toNat then none
        else some (.character c, cs)

/-! ### Sets -/

/-- Names of sets inside of sets. -/
def setNames : List String :=
  ["alnum", "alpha", "ascii", "blank", "cntrl", "digit", "graph", "lower", "print", "punct",
    "space", "upper", "word", "xdigit"]

/-- What follows a named set, behind its first bracket. -/
def namedSet? (cs : List Char) : Option (List Char) := do
  let cs := skipping ['^'] (← literal? [':'] cs)
  let name := cs.takeWhile (· ≠ ':')
  let rest ← literal? [':', ']'] (cs.drop name.length)
  if String.ofList name ∈ setNames then return rest else none

/-- What follows the beginning of a set: a caret, hyphens, and a bracket that comes first. -/
def afterOpening (cs : List Char) : List Char :=
  let cs := skipping ['^'] cs
  if cs.head? = some ']' then cs.drop 1 else cs.dropWhile (· = '-')

/-- A member of a set, and what follows it. -/
def member? : List Char → Option (Escaped × List Char)
  | [] => none
  | '\\' :: cs => escaped? cs
  | c :: cs => some (.character c, cs)

/-- What follows a member or a range of characters. -/
def afterRange? (cs : List Char) : Option (List Char) := do
  let (low, rest) ← member? cs
  match rest with
  | '-' :: next =>
    if next.head? = some ']' ∨ next.head? = some '-' then
      if low = .place then none else return rest
    else
      match low, ← member? next with
      | .character a, (.character b, rest) => if a ≤ b then return rest else none
      | _, _ => none
  | _ => if low = .place then none else return rest

/-- What follows a set, from inside of it and of so many others around it. -/
def afterSet? : Nat → Nat → List Char → Option (List Char)
  | 0, _, _ | _ + 1, _, [] => none
  | fuel + 1, depth, '[' :: cs =>
    match namedSet? cs with
    | some rest => afterSet? fuel depth rest
    | none => afterSet? fuel (depth + 1) (afterOpening cs)
  | fuel + 1, depth, ']' :: cs =>
    match depth with
    | 0 => some cs
    | depth + 1 => afterSet? fuel depth cs
  | fuel + 1, depth, '&' :: '&' :: cs | fuel + 1, depth, '-' :: '-' :: cs
  | fuel + 1, depth, '~' :: '~' :: cs => afterSet? fuel depth cs
  | fuel + 1, depth, cs => (afterRange? cs).bind (afterSet? fuel depth)

/-! ### Groups -/

inductive Opening where
  | plain
  | named (name : List Char)
  /-- Settings for what follows, without a group. -/
  | settings
  deriving DecidableEq, Repr

/-- Settings, each at most once; behind a hyphen they are taken back. -/
def areSettings (cs : List Char) : Bool :=
  cs.all (· ∈ ['i', 'm', 's', 'U', 'u', 'R', 'x', '-']) && cs.eraseDups.length == cs.length &&
    cs.getLast? != some '-'

def isName : List Char → Bool
  | [] => false
  | c :: cs =>
    (c = '_' || isAlphanumeric c && !isDecimalDigit c) &&
      cs.all fun c => isAlphanumeric c || c ∈ ['_', '.', '[', ']']

/-- Reads the beginning of a group, behind its parenthesis. -/
def opening? (cs : List Char) : Option (Opening × List Char) :=
  match (literal? ['?', 'P', '<'] cs).or (literal? ['?', '<'] cs), cs with
  | some rest, _ =>
    let name := rest.takeWhile (· ≠ '>')
    if isName name ∧ name.length < rest.length then some (.named name, rest.drop (name.length + 1))
    else none
  | none, '?' :: rest =>
    let settings := rest.takeWhile fun c => c ≠ ':' && c ≠ ')'
    if !areSettings settings then none
    else
      match rest.drop settings.length with
      | ':' :: rest => some (.plain, rest)
      | ')' :: rest => if settings.isEmpty then none else some (.settings, rest)
      | _ => none
  | none, _ => some (.plain, cs)

/-! ### Patterns -/

structure Progress where
  /-- The groups that are not closed yet. -/
  opened : Nat := 0
  /-- Whether there is something just in front that can be repeated. -/
  repeatable : Bool := false
  /-- The names of groups. -/
  names : List (List Char) := []

def Progress.step? (p : Progress) (c : Char) (cs : List Char) : Option (Progress × List Char) :=
  let single := { p with repeatable := true }
  match c with
  | '(' => do
    match ← opening? cs with
    | (.plain, rest) => return ({ p with opened := p.opened + 1, repeatable := false }, rest)
    | (.settings, rest) => return ({ p with repeatable := false }, rest)
    | (.named name, rest) =>
      if name ∈ p.names then none
      else return (⟨p.opened + 1, false, name :: p.names⟩, rest)
  | ')' => if p.opened = 0 then none else some ({ single with opened := p.opened - 1 }, cs)
  | '|' => some ({ p with repeatable := false }, cs)
  | '[' => (afterSet? (cs.length + 1) 0 (afterOpening cs)).map (single, ·)
  | '?' | '*' | '+' => if p.repeatable then some (single, skipping ['?'] cs) else none
  | '{' => none
  | '\\' => (escaped? cs).map fun (_, rest) => (single, rest)
  | _ => some (single, cs)

def readFrom : Nat → Progress → List Char → Bool
  | _, p, [] => p.opened = 0
  | 0, _, _ => false
  | fuel + 1, p, c :: cs =>
    match p.step? c cs with
    | some (p, rest) => readFrom fuel p rest
    | none => false

end Pattern

/-- Whether a text without closing braces is a pattern. Counted repetitions and names in braces
are not closed in such a text. -/
def isPattern (cs : List Char) : Bool := Pattern.readFrom cs.length {} cs

end IPsecControl.Log
