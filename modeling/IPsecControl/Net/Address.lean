import IPsecControl.Text.Decimal

/-! Internet addresses and their text. An IPv4 address is four octets with dots;
an IPv6 address is eight groups with colons, of which the first longest run of at
least two zero groups is written `::`, and one that maps an IPv4 address ends in
its dotted form. -/
namespace IPsecControl.Net

inductive Address where
  | v4 (a b c d : UInt8)
  | v6 (groups : Vector UInt16 8)
  deriving DecidableEq, Repr

inductive Family where
  | v4
  | v6
  deriving DecidableEq, Repr

namespace Address
open Text

def family : Address → Family
  | .v4 .. => .v4
  | .v6 _ => .v6

/-! ### Text -/

def dotted (a b c d : UInt8) : List Char :=
  digits a.toNat ++ '.' :: digits b.toNat ++ '.' :: digits c.toNat ++ '.' :: digits d.toNat

/-- Groups in hexadecimal with colons between them. -/
def colonSeparated : List UInt16 → List Char
  | [] => []
  | [g] => hexDigits g.toNat
  | g :: rest => hexDigits g.toNat ++ ':' :: colonSeparated rest

/-- The length of the run of zero groups at the front. -/
def zeroRun (groups : List UInt16) : Nat := (groups.takeWhile (· == 0)).length

/-- Start and length of the first longest run of zero groups, from `index` on. -/
def longestZeroRun (index : Nat) : List UInt16 → Nat × Nat
  | [] => (0, 0)
  | g :: rest =>
    let here := zeroRun (g :: rest)
    let later := longestZeroRun (index + 1) rest
    if 0 < here ∧ later.2 ≤ here then (index, here) else later

def high (g : UInt16) : UInt8 := UInt8.ofNat (g.toNat / 256)
def low (g : UInt16) : UInt8 := UInt8.ofNat (g.toNat % 256)

def groupsText (groups : List UInt16) : List Char :=
  match groups with
  | [0, 0, 0, 0, 0, 0xFFFF, g, h] =>
    [':', ':', 'f', 'f', 'f', 'f', ':'] ++ dotted (high g) (low g) (high h) (low h)
  | _ =>
    let (start, length) := longestZeroRun 0 groups
    if 1 < length then
      colonSeparated (groups.take start) ++ ':' :: ':' ::
        colonSeparated (groups.drop (start + length))
    else colonSeparated groups

def render : Address → List Char
  | .v4 a b c d => dotted a b c d
  | .v6 groups => groupsText groups.toList

def text (a : Address) : String := String.ofList a.render

/-! ### Reading -/

/-- The digits at the front, at most `most` of them. -/
def readNumber? (base most : Nat) (leadingZero : Bool) (cs : List Char) :
    Option (Nat × List Char) :=
  let ds := cs.takeWhile fun c => (digitValue? base c).isSome
  if ds.isEmpty || most < ds.length || (!leadingZero && cs.head? == some '0' && 1 < ds.length) then
    none
  else
    some (ds.foldl (fun n c => n * base + (digitValue? base c).getD 0) 0, cs.drop ds.length)

def readOctet? (cs : List Char) : Option (UInt8 × List Char) :=
  match readNumber? 10 3 false cs with
  | some (n, rest) => if n < 256 then some (UInt8.ofNat n, rest) else none
  | none => none

def skip? (c : Char) : List Char → Option (List Char)
  | d :: rest => if d = c then some rest else none
  | [] => none

def readDotted? (cs : List Char) : Option ((UInt8 × UInt8 × UInt8 × UInt8) × List Char) := do
  let (a, cs) ← readOctet? cs
  let cs ← skip? '.' cs
  let (b, cs) ← readOctet? cs
  let cs ← skip? '.' cs
  let (c, cs) ← readOctet? cs
  let cs ← skip? '.' cs
  let (d, cs) ← readOctet? cs
  return ((a, b, c, d), cs)

/-- What stands in front of a group: nothing for the first, a colon for the others. -/
def separator? (first : Bool) (cs : List Char) : Option (List Char) :=
  if first then some cs else skip? ':' cs

/-- Reads at most `room` groups; the flag tells that the last two came in dotted form,
which needs room for two. -/
def readGroups (first : Bool) : Nat → List Char → List UInt16 × Bool × List Char
  | 0, cs => ([], false, cs)
  | room + 1, cs =>
    let dotted? := if 0 < room then (separator? first cs).bind readDotted? else none
    match dotted? with
    | some ((a, b, c, d), rest) =>
      ([UInt16.ofNat (a.toNat * 256 + b.toNat), UInt16.ofNat (c.toNat * 256 + d.toNat)], true, rest)
    | none =>
      match (separator? first cs).bind (readNumber? 16 4 true) with
      | some (g, rest) =>
        let (groups, dotted, rest) := readGroups false room rest
        (UInt16.ofNat g :: groups, dotted, rest)
      | none => ([], false, cs)

/-- Eight groups from the parts in front of and behind `::`. -/
def join? (head tail : List UInt16) : Option (Vector UInt16 8) :=
  let groups := head ++ List.replicate (8 - head.length - tail.length) 0 ++ tail
  if h : groups.length = 8 then some ⟨groups.toArray, by simpa using h⟩ else none

def readV6? (cs : List Char) : Option (Vector UInt16 8 × List Char) :=
  let (head, dotted, rest) := readGroups true 8 cs
  if head.length = 8 then (join? head []).map (·, rest)
  else if dotted then none
  else do
    let rest ← skip? ':' rest
    let rest ← skip? ':' rest
    let (tail, _, rest) := readGroups true (7 - head.length) rest
    let groups ← join? head tail
    return (groups, rest)

def parse? (cs : List Char) : Option Address :=
  let read? : Option (Address × List Char) :=
    match readDotted? cs with
    | some ((a, b, c, d), rest) => some (.v4 a b c d, rest)
    | none => (readV6? cs).map fun (groups, rest) => (.v6 groups, rest)
  match read? with
  | some (address, []) => some address
  | _ => none

end Address
end IPsecControl.Net
