import IPsecControl.Text.Decimal
import IPsecControl.Text.Utf8

/-! Formatted printing in the shell: backslash escapes, and formats that are used again until
all arguments are printed. -/
namespace IPsecControl.Shell
open Text

abbrev Bytes := List UInt8

def textBytes (cs : List Char) : Bytes := Utf8.bytes (String.ofList cs)

def isOctal (c : Char) : Bool := '0' ≤ c && c ≤ '7'

def octalByte (ds : List Char) : UInt8 :=
  UInt8.ofNat (ds.foldl (fun n d => n * 8 + (d.toNat - 48)) 0)

/-- The byte that a letter behind a backslash stands for. -/
def letterByte? (c : Char) : Option UInt8 :=
  match c with
  | 'a' => some 7
  | 'b' => some 8
  | 'e' => some 27
  | 'f' => some 12
  | 'n' => some 10
  | 'r' => some 13
  | 't' => some 9
  | 'v' => some 11
  | '\\' => some 92
  | _ => none

def octalDigits (most : Nat) (cs : List Char) : List Char := (cs.take most).takeWhile isOctal

/-- The bytes of a format's characters behind a backslash, and how many they are. -/
def formatEscape (cs : List Char) : Bytes × Nat :=
  match cs with
  | [] => ([92], 0)
  | c :: _ =>
    match octalDigits 3 cs, letterByte? c with
    | d :: ds, _ => ([octalByte (d :: ds)], ds.length + 1)
    | [], some b => ([b], 1)
    | [], none => (92 :: textBytes [c], 1)

/-- The bytes of an argument with escapes; the flag tells that `\c` ended it. -/
def argumentBytes : Nat → List Char → Bytes × Bool
  | 0, _ => ([], false)
  | _ + 1, [] => ([], false)
  | fuel + 1, '\\' :: 'c' :: _ => let _ := fuel; ([], true)
  | fuel + 1, '\\' :: '0' :: cs =>
    let ds := octalDigits 3 cs
    let (bytes, ends) := argumentBytes fuel (cs.drop ds.length)
    (octalByte ds :: bytes, ends)
  | fuel + 1, '\\' :: cs =>
    let (front, n) := match octalDigits 3 cs, cs.head?.bind letterByte? with
      | d :: ds, _ => ([octalByte (d :: ds)], ds.length + 1)
      | [], some b => ([b], 1)
      | [], none => ([92], 0)
    let (bytes, ends) := argumentBytes fuel (cs.drop n)
    (front ++ bytes, ends)
  | fuel + 1, c :: cs =>
    let (bytes, ends) := argumentBytes fuel cs
    (textBytes [c] ++ bytes, ends)

/-- The bytes of an argument with escapes. -/
def escapedBytes (cs : List Char) : Bytes × Bool := argumentBytes (cs.length + 1) cs

/-- A numeral without a sign: hexadecimal behind `0x`, octal behind `0`. The value is at most
`limit`; the complaint tells what is wrong. -/
def numeral (limit : Nat) (cs : List Char) : Nat × Option String :=
  let (base, ds) := match cs with
    | '0' :: x :: ds => if x = 'x' ∨ x = 'X' then (16, ds) else (8, '0' :: x :: ds)
    | cs => (10, cs)
  let front := ds.takeWhile fun c => (digitValue? base c).isSome
  let n := front.foldl (fun n c => n * base + (digitValue? base c).getD 0) 0
  if front.isEmpty then (0, some "expected numeric value")
  else if front.length < ds.length then (Nat.min n limit, some "not completely converted")
  else if limit < n then (limit, some "Numerical result out of range")
  else (n, none)

/-- A numeric argument, and what is wrong with it; a leading quote gives the code of the
character behind it. -/
def numeric (arg : List Char) : Int × Option String :=
  match arg with
  | [] => (0, none)
  | '"' :: c :: _ | '\'' :: c :: _ => (c.toNat, none)
  | '-' :: cs => let (n, complaint) := numeral (1 <<< 63) cs; (-(n : Int), complaint)
  | '+' :: cs => let (n, complaint) := numeral (1 <<< 63 - 1) cs; (n, complaint)
  | cs => let (n, complaint) := numeral (1 <<< 63 - 1) cs; (n, complaint)

/-- What stands between the percent sign of a conversion and its letter. -/
structure Layout where
  flags : List Char := []
  width : Nat := 0
  precision : Option Nat := none
  deriving DecidableEq, Repr

namespace Layout

def has (l : Layout) (flag : Char) : Bool := l.flags.contains flag

/-- A layout with the width of a number, which is negative for text to the left. -/
def withWidth (n : Int) (l : Layout) : Layout :=
  { l with width := n.natAbs, flags := if n < 0 then '-' :: l.flags else l.flags }

def pad (l : Layout) (bytes : Bytes) : Bytes :=
  let blanks := List.replicate (l.width - bytes.length) 32
  if l.has '-' then bytes ++ blanks else blanks ++ bytes

def text (l : Layout) (bytes : Bytes) : Bytes :=
  l.pad (match l.precision with
    | some n => bytes.take n
    | none => bytes)

/-- A number given by what stands in front of its digits. -/
def number (l : Layout) (sign : List Char) (ds : List Char) : Bytes :=
  match l.precision with
  | some n => l.pad (textBytes (sign ++ if n = 0 ∧ ds = ['0'] then [] else zeroFill n ds))
  | none =>
    if l.has '0' && !l.has '-' then textBytes (sign ++ zeroFill (l.width - sign.length) ds)
    else l.pad (textBytes (sign ++ ds))

def signed (l : Layout) (n : Int) : Bytes :=
  let sign := if n < 0 then ['-'] else if l.has '+' then ['+'] else if l.has ' ' then [' '] else []
  l.number sign (digits n.natAbs)

def unsigned (l : Layout) (sign : List Char) (ds : List Char) : Bytes :=
  l.number (if l.has '#' then sign else []) ds

end Layout

/-- A number of a layout: digits, or a star for the next argument. -/
def layoutNumber (cs : List Char) (args : List (List Char)) :
    Option Int × List Char × List (List Char) :=
  match cs with
  | '*' :: cs => (some (numeric (args.headD [])).1, cs, args.drop 1)
  | _ =>
    match cs.takeWhile Char.isDigit with
    | [] => (none, cs, args)
    | ds =>
      let n := (readDigits 10 (1 <<< 31) .tooLarge 0 ds).toOption.getD 0
      (some (n : Int), cs.drop ds.length, args)

def layout (cs : List Char) (args : List (List Char)) : Layout × List Char × List (List Char) :=
  let flags := cs.takeWhile fun c => c == '#' || c == '-' || c == '+' || c == ' ' || c == '0'
  let (width, cs, args) := layoutNumber (cs.drop flags.length) args
  let l := ({ flags } : Layout).withWidth (width.getD 0)
  match cs with
  | '.' :: cs =>
    let (precision, cs, args) := layoutNumber cs args
    ({ l with precision := some (precision.getD 0).toNat }, cs, args)
  | _ => (l, cs, args)

structure Conversion where
  bytes : Bytes
  complaint : Option String := none
  /-- Whether nothing is printed behind it. -/
  ends : Bool := false

def conversion? (l : Layout) (letter : Char) (arg : List Char) : Option Conversion :=
  let number (shown : Int → Bytes) : Option Conversion :=
    let (n, complaint) := numeric arg
    some { bytes := shown n, complaint }
  let bits (n : Int) : Nat := (n.emod (1 <<< 64 : Nat)).toNat
  match letter with
  | 's' => some { bytes := l.text (textBytes arg) }
  | 'b' => let (bytes, ends) := escapedBytes arg; some { bytes := l.text bytes, ends }
  | 'c' => some { bytes := l.pad ((textBytes arg).take 1) }
  | 'd' | 'i' => number l.signed
  | 'u' => number fun n => l.number [] (digits (bits n))
  | 'x' => number fun n => l.unsigned ['0', 'x'] (hexDigits (bits n))
  | 'X' => number fun n => l.unsigned ['0', 'X'] ((hexDigits (bits n)).map Char.toUpper)
  | 'o' => number fun n => l.unsigned ['0'] (digitsOnto 6 (bits n) [])
  | _ => none

/-- What a format printed: its bytes, complaints, and arguments left; the flags tell that a
conversion was met, and that printing has ended. -/
structure Printed where
  bytes : Bytes := []
  complaints : List String := []
  args : List (List Char)
  converted : Bool := false
  ended : Bool := false
  /-- Whether the format is none. -/
  refused : Bool := false

def Printed.put (bytes : Bytes) (p : Printed) : Printed := { p with bytes := bytes ++ p.bytes }

/-- One pass over a format. -/
def formatOnce : Nat → List Char → List (List Char) → Printed
  | 0, _, args => { args }
  | _ + 1, [], args => { args }
  | fuel + 1, '%' :: '%' :: cs, args => (formatOnce fuel cs args).put [37]
  | fuel + 1, '%' :: cs, args =>
    match layout cs args with
    | (_, [], args) =>
      { args, ended := true, converted := true, refused := true
        complaints := ["missing format character"] }
    | (l, letter :: rest, args) =>
      let arg := args.headD []
      match conversion? l letter arg with
      | none =>
        let shown := cs.take (cs.length - rest.length)
        { args, ended := true, converted := true, refused := true
          complaints := ["%" ++ String.ofList shown ++ ": invalid directive"] }
      | some c =>
        let p : Printed :=
          if c.ends then { args := args.drop 1, ended := true }
          else formatOnce fuel rest (args.drop 1)
        { p.put c.bytes with
          converted := true
          complaints := match c.complaint with
            | some text => (String.ofList arg ++ ": " ++ text) :: p.complaints
            | none => p.complaints }
  | fuel + 1, '\\' :: cs, args =>
    let (bytes, n) := formatEscape cs
    (formatOnce fuel (cs.drop n) args).put bytes
  | fuel + 1, c :: cs, args => (formatOnce fuel cs args).put (textBytes [c])

/-- Uses a format until the arguments are used up; the flag tells that it is none. -/
def formatAll (format : List Char) : Nat → List (List Char) → Bytes × List String × Bool
  | 0, _ => ([], [], false)
  | fuel + 1, args =>
    let p := formatOnce (format.length + 1) format args
    if p.ended || !p.converted || p.args.isEmpty then (p.bytes, p.complaints, p.refused)
    else
      let (bytes, complaints, refused) := formatAll format fuel p.args
      (p.bytes ++ bytes, p.complaints ++ complaints, refused)

end IPsecControl.Shell
