/-! Patterns of the shell. A star stands for any text, a question mark for any character, and
brackets for one of some characters; quoted characters stand for themselves. -/
namespace IPsecControl.Shell

/-- A character of an expanded word, and whether it was quoted. -/
abbrev QuotedChar := Char × Bool

inductive Pattern where
  | literal (c : Char)
  | any
  | star
  /-- A character in one of the ranges, or in none of them. -/
  | set (negated : Bool) (ranges : List (Char × Char))
  deriving DecidableEq, Repr

namespace Pattern

/-- The ranges up to the closing bracket, and how many characters that takes. -/
def ranges? : List QuotedChar → Option (List (Char × Char) × Nat)
  | [] => none
  | (']', false) :: _ => some ([], 1)
  | (a, _) :: ('-', false) :: (b, q) :: cs =>
    if b = ']' ∧ q = false then some ([(a, a), ('-', '-')], 3)
    else (ranges? cs).map fun (rs, n) => ((a, b) :: rs, n + 3)
  | (a, _) :: cs => (ranges? cs).map fun (rs, n) => ((a, a) :: rs, n + 1)

/-- The set behind an opening bracket. A closing bracket in front belongs to the set. -/
def set? (cs : List QuotedChar) : Option (Pattern × Nat) :=
  let negated := cs.head?.any fun c => c == ('!', false) || c == ('^', false)
  let cs := if negated then cs.drop 1 else cs
  let sign := if negated then 1 else 0
  match cs with
  | (']', q) :: rest =>
    let _ := q
    (ranges? rest).map fun (rs, n) => (.set negated ((']', ']') :: rs), sign + 1 + n)
  | _ => (ranges? cs).map fun (rs, n) => (.set negated rs, sign + n)

/-- Reads a pattern; the fuel bounds its length. -/
def readWithin : Nat → List QuotedChar → List Pattern
  | 0, _ | _ + 1, [] => []
  | fuel + 1, (c, quoted) :: cs =>
    if quoted then .literal c :: readWithin fuel cs
    else if c = '*' then .star :: readWithin fuel cs
    else if c = '?' then .any :: readWithin fuel cs
    else if c = '[' then
      match set? cs with
      | some (p, n) => p :: readWithin fuel (cs.drop n)
      | none => .literal c :: readWithin fuel cs
    else .literal c :: readWithin fuel cs

def ofChars (cs : List QuotedChar) : List Pattern := readWithin cs.length cs

/-- Whether one character is what a pattern other than a star stands for. -/
def admits (c : Char) : Pattern → Bool
  | literal d => c == d
  | any | star => true
  | set negated ranges => ranges.any (fun (a, b) => a ≤ c && c ≤ b) != negated

/-- Whether a text is one that patterns in a row stand for. -/
def matchesAll : List Pattern → List Char → Bool
  | [], cs => cs.isEmpty
  | .star :: ps, [] => matchesAll ps []
  | .star :: ps, c :: cs => matchesAll ps (c :: cs) || matchesAll (.star :: ps) cs
  | _ :: _, [] => false
  | p :: ps, c :: cs => p.admits c && matchesAll ps cs
termination_by ps cs => (ps.length, cs.length)

end Pattern

/-- A text without the part in front that patterns stand for, shortest or longest. -/
def withoutFront (longest : Bool) (ps : List Pattern) (cs : List Char) : List Char :=
  let cuts := (List.range (cs.length + 1)).filter fun n => Pattern.matchesAll ps (cs.take n)
  match if longest then cuts.getLast? else cuts.head? with
  | some n => cs.drop n
  | none => cs

/-- A text without the part at the end that patterns stand for, shortest or longest. -/
def withoutEnd (longest : Bool) (ps : List Pattern) (cs : List Char) : List Char :=
  let cuts := (List.range (cs.length + 1)).filter fun n => Pattern.matchesAll ps (cs.drop n)
  match if longest then cuts.head? else cuts.getLast? with
  | some n => cs.take n
  | none => cs

end IPsecControl.Shell
