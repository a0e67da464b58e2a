import IPsecControl.Text.Blank
import IPsecControl.Text.Scan
import IPsecControl.Text.Split

/-! Addresses of endpoints as URIs: a scheme, an authority, a path and a query. A fragment is
dropped. A URI without a scheme is an authority alone or a path alone. -/
namespace IPsecControl.Transport
open Text

structure Uri where
  scheme : Option (List Char) := none
  authority : List Char := []
  path : List Char := []
  query : Option (List Char) := none
  deriving DecidableEq, Repr

namespace Uri

def text (u : Uri) : String :=
  let scheme := match u.scheme with
    | some s => s ++ [':', '/', '/']
    | none => []
  let query := match u.query with
    | some q => '?' :: q
    | none => []
  String.ofList (scheme ++ u.authority ++ u.path ++ query)

/-! ### Scheme -/

def isSchemeChar (c : Char) : Bool :=
  c.isAlphanum || c == '+' || c == '-' || c == '.' || c == '~'

def longestScheme : Nat := 64

/-- Splits the scheme off. The schemes of the web are read in either case; a text of three
characters has none. -/
def takeScheme? (cs : List Char) : Option (Option (List Char) × List Char) :=
  let front := cs.takeWhile isSchemeChar
  match literal? [':', '/', '/'] (cs.drop front.length) with
  | none => some (none, cs)
  | some rest =>
    let lower := front.map lowerAscii
    if lower = ['h', 't', 't', 'p'] ∨ lower = ['h', 't', 't', 'p', 's'] then some (some lower, rest)
    else if cs.length ≤ 3 then some (none, cs)
    else if longestScheme < front.length then none
    else some (some front, rest)

/-! ### Authority -/

/-- Characters that stand for themselves in an authority. -/
def isAuthorityChar (c : Char) : Bool :=
  c.isAlphanum || c ∈ ['!', '$', '&', '\'', '(', ')', '*', '+', ',', '-', '.', ';', '=', '_', '~']

/-- Characters that end an authority. -/
def endsAuthority (c : Char) : Bool := c == '/' || c == '?' || c == '#'

/-- Most colons in a row of groups. -/
def mostColons : Nat := 8

/-- What an authority had so far: colons and percent signs since the last bracket or at sign,
brackets, and whether the last character was an at sign. -/
structure Progress where
  colons : Nat := 0
  percent : Bool := false
  opened : Bool := false
  closed : Bool := false
  afterAt : Bool := false

def Progress.step? (p : Progress) (c : Char) : Option Progress :=
  if c = ':' then
    if mostColons ≤ p.colons then none else some { p with colons := p.colons + 1, afterAt := false }
  else if c = '[' then
    if p.percent || p.opened then none else some { p with opened := true, afterAt := false }
  else if c = ']' then
    if !p.opened || p.closed then none
    else some { p with closed := true, colons := 0, percent := false, afterAt := false }
  else if c = '@' then some { p with colons := 0, percent := false, afterAt := true }
  else if c = '%' then some { p with percent := true, afterAt := false }
  else if isAuthorityChar c then some { p with afterAt := false }
  else none

/-- Brackets come in a pair, one colon at most is left for the port, and percent signs stand
only in brackets and in front of an at sign. -/
def Progress.isComplete (p : Progress) : Bool :=
  p.opened == p.closed && p.colons ≤ 1 && !p.afterAt && !p.percent

def isAuthority (cs : List Char) : Bool :=
  match cs.foldlM Progress.step? {} with
  | some p => p.isComplete
  | none => false

/-- The host in an authority, with its brackets if it has any. -/
def hostOf (authority : List Char) : List Char :=
  let place := (authority.reverse.takeWhile (· ≠ '@')).reverse
  if place.head? = some '[' then place.takeWhile (· ≠ ']') ++ [']']
  else place.takeWhile (· ≠ ':')

def host? (u : Uri) : Option (List Char) :=
  if u.authority.isEmpty then none else some (hostOf u.authority)

/-! ### Path and query -/

def isPathChar (c : Char) : Bool :=
  let n := c.toNat
  n == 0x21 || n == 0x22 || (0x24 ≤ n && n ≤ 0x3B) || n == 0x3D || (0x40 ≤ n && n ≤ 0x5F) ||
    0x61 ≤ n

def isQueryChar (c : Char) : Bool :=
  let n := c.toNat
  n == 0x21 || (0x24 ≤ n && n ≤ 0x3B) || n == 0x3D || 0x3F ≤ n

def readPath? (cs : List Char) : Option (List Char × Option (List Char)) :=
  let path := cs.takeWhile fun c => c ≠ '?' && c ≠ '#'
  let query := match cs.drop path.length with
    | '?' :: rest => some (rest.takeWhile (· ≠ '#'))
    | _ => none
  if path.all isPathChar && (query.getD []).all isQueryChar then some (path, query) else none

/-! ### Reading -/

def longestUri : Nat := 65534

def parse? (text : String) : Option Uri :=
  let cs := text.toList
  if cs.isEmpty || longestUri < text.utf8ByteSize then none
  else if cs = ['*'] then some { path := cs }
  else if cs.head? = some '/' then
    (readPath? cs).map fun (path, query) => { path, query }
  else do
    let (scheme, rest) ← takeScheme? cs
    let authority := rest.takeWhile (!endsAuthority ·)
    if !isAuthority authority then none
    else if scheme.isNone then
      if authority = rest then some { authority } else none
    else if authority.isEmpty then none
    else
      let (path, query) ← readPath? (rest.drop authority.length)
      return { scheme, authority, path := if path.isEmpty then ['/'] else path, query }

end Uri
end IPsecControl.Transport
