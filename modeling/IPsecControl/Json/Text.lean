import IPsecControl.Json.Failure

/-! JSON strings. Quotes, backslashes and control characters are escaped; a character
outside the basic plane may be written as a pair of surrogate escapes. -/
namespace IPsecControl.Json
open Reader Text

/-! ### Writing -/

def hexDigitByte (n : Nat) : UInt8 := byte (digitChar n)

/-- The letters of the short escapes. -/
def shortEscape? (b : UInt8) : Option UInt8 :=
  if b = 34 then some 34
  else if b = 92 then some 92
  else if b = 8 then some 98
  else if b = 9 then some 116
  else if b = 10 then some 110
  else if b = 12 then some 102
  else if b = 13 then some 114
  else none

def escapedByte (b : UInt8) : Bytes :=
  match shortEscape? b with
  | some letter => [92, letter]
  | none =>
    if b < 32 then
      [92, 117, 48, 48, hexDigitByte (b.toNat / 16), hexDigitByte (b.toNat % 16)]
    else [b]

def textBytes (s : String) : Bytes := 34 :: (Utf8.bytes s).flatMap escapedByte ++ [34]

/-! ### Reading -/

def unescape? (letter : UInt8) : Option UInt8 :=
  if letter = 34 then some 34
  else if letter = 92 then some 92
  else if letter = 47 then some 47
  else if letter = 98 then some 8
  else if letter = 102 then some 12
  else if letter = 110 then some 10
  else if letter = 114 then some 13
  else if letter = 116 then some 9
  else none

def hexValue? (b : UInt8) : Option Nat := digitValue? 16 (Char.ofNat b.toNat)

def fourHex? (a b c d : UInt8) : Option Nat := do
  return (((← hexValue? a) * 16 + (← hexValue? b)) * 16 + (← hexValue? c)) * 16 + (← hexValue? d)

def codeUnit : Reader Nat := fun
  | a :: b :: c :: d :: rest =>
    match fourHex? a b c d with
    | some n => .ok (n, rest)
    | none => .error ⟨.invalidEscape, rest⟩
  | _ => .error ⟨.endInString, []⟩

/-- Takes a byte that has to follow in a string. -/
def required : Reader UInt8 := do
  match ← take? with
  | some b => return b
  | none => fail .endInString

def isLeading (n : Nat) : Bool := 0xD800 ≤ n && n < 0xDC00
def isTrailing (n : Nat) : Bool := 0xDC00 ≤ n && n < 0xE000

/-- Reads the character of a code unit, which may be the first of a pair. -/
def escapedChar : Reader Char := do
  let n ← codeUnit
  if isTrailing n then fail .loneSurrogate
  else if isLeading n then
    if (← required) ≠ 92 then fail .unfinishedPair
    if (← required) ≠ 117 then fail .unfinishedPair
    let m ← codeUnit
    if isTrailing m then return Char.ofNat ((n - 0xD800) * 1024 + (m - 0xDC00) + 0x10000)
    else fail .loneSurrogate
  else return Char.ofNat n

/-- Reads what follows a backslash. -/
def escape : Reader Bytes := do
  let letter ← required
  if letter = 117 then return Utf8.bytes (String.singleton (← escapedChar))
  match unescape? letter with
  | some b => return [b]
  | none => fail .invalidEscape

/-- Reads the rest of a string behind its opening quote, onto reversed bytes. A string is no
longer than its text. -/
def stringBytes : Nat → Bytes → Reader Bytes
  | 0, _ => fail .endInString
  | fuel + 1, read => do
    match ← take? with
    | none => fail .endInString
    | some b =>
      if b = 34 then return read.reverse
      else if b = 92 then stringBytes fuel ((← escape).reverse ++ read)
      else if b < 32 then fail .controlCharacter
      else stringBytes fuel (b :: read)

def readText : Reader String := do
  let bytes ← stringBytes ((← get).length + 1) []
  return (Utf8.text? bytes).getD (String.ofList (Utf8.lossy bytes))

/-- Reads over the rest of a string; surrogates need not come in pairs. -/
def passString : Nat → Reader Unit
  | 0 => fail .endInString
  | fuel + 1 => do
    match ← next? with
    | none => fail .endInString
    | some b =>
      if b < 32 then fail .controlCharacter
      skip
      if b = 34 then return
      if b = 92 then
        let letter ← required
        if letter = 117 then discard codeUnit
        else if (unescape? letter).isNone then fail .invalidEscape
      passString fuel

def passText : Reader Unit := do passString ((← get).length + 1)

end IPsecControl.Json
