import IPsecControl.Json.Number
import IPsecControl.Json.Text

/-! Punctuation of JSON texts, values that are not wanted, and values that are read over. -/
namespace IPsecControl.Json
open Reader

def openBracket : UInt8 := 91
def closeBracket : UInt8 := 93
def openBrace : UInt8 := 123
def closeBrace : UInt8 := 125
def comma : UInt8 := 44
def colon : UInt8 := 58
def quote : UInt8 := 34

def literal : Bytes → Reader Unit
  | [] => return
  | b :: bs => do
    match ← take? with
    | none => fail .endInValue
    | some c => if c = b then literal bs else fail .noLiteral

def nullRest : Bytes := [117, 108, 108]
def trueRest : Bytes := [114, 117, 101]
def falseRest : Bytes := [97, 108, 115, 101]

def readColon : Reader Unit := do
  match ← peek with
  | some b => if b = colon then skip else failPast .noColon
  | none => failPast .endInObject

/-- Tells whether another item of a list follows, and goes to it. -/
def moreItems (first : Bool) : Reader Bool := do
  match ← peek with
  | none => failPast .endInList
  | some b =>
    if b = closeBracket then return false
    else if first then return true
    else if b = comma then
      skip
      match ← peek with
      | some b => if b = closeBracket then failPast .trailingComma else return true
      | none => failPast .endInValue
    else failPast .noListEnd

/-- Tells whether another member of an object follows, and goes to its key. -/
def moreMembers (first : Bool) : Reader Bool := do
  match ← peek with
  | none => failPast .endInObject
  | some b =>
    if b = closeBrace then return false
    else if first then
      if b = quote then return true else failPast .keyNotText
    else if b = comma then
      skip
      match ← peek with
      | some b =>
        if b = quote then return true
        else if b = closeBrace then failPast .trailingComma
        else failPast .keyNotText
      | none => failPast .endInValue
    else failPast .noObjectEnd

def endList : Reader Unit := do
  match ← peek with
  | none => failPast .endInList
  | some b =>
    if b = closeBracket then skip
    else if b = comma then
      skip
      if (← peek) = some closeBracket then failPast .trailingComma
      else failPast .trailingCharacters
    else failPast .trailingCharacters

def endObject : Reader Unit := do
  match ← peek with
  | none => failPast .endInObject
  | some b =>
    if b = closeBrace then skip
    else if b = comma then failPast .trailingComma
    else failPast .trailingCharacters

/-- Fails with what stands here instead of what is expected; a scalar is read first. -/
def invalidType {α : Type} (expected : String) : Reader α := do
  let found (u : Unexpected) : Reader α := fail (.invalidType u expected)
  match ← next? with
  | some 110 => do skip; literal nullRest; found .null
  | some 116 => do skip; literal trueRest; found (.boolean true)
  | some 102 => do skip; literal falseRest; found (.boolean false)
  | some 45 => do skip; found (← Number.read true).unexpected
  | some 34 => do skip; found (.text (← readText))
  | some 91 => found .sequence
  | some 123 => found .map
  | some b => if isDigitByte b then do found (← Number.read false).unexpected else failPast .noValue
  | none => failPast .noValue

/-- An open list or object around a value that is read over. -/
inductive Frame where
  | list
  | object
  deriving DecidableEq, Repr

def passKey : Reader Unit := do
  match ← peek with
  | some b => if b = quote then skip else failPast .keyNotText
  | none => failPast .endInObject
  passText
  readColon

/-- Reads over the end of lists and objects up to the next value; the flag tells that a
value stands in front. Returns what is still open. -/
def passEnds (behindValue : Bool) : List Frame → Reader (List Frame)
  | [] => return []
  | frame :: outer => do
    match ← peek with
    | none => failPast (match frame with | .list => .endInList | .object => .endInObject)
    | some b =>
      if behindValue ∧ b = comma then
        skip
        if frame = .object then passKey
        return frame :: outer
      else if (b = closeBracket ∧ frame = .list) ∨ (b = closeBrace ∧ frame = .object) then
        skip
        passEnds true outer
      else if behindValue then
        failPast (match frame with | .list => .noListEnd | .object => .noObjectEnd)
      else
        if frame = .object then passKey
        return frame :: outer

/-- Reads over a scalar, or over the opening of a list or object. -/
def passStart : Reader (Option Frame) := do
  match ← peek with
  | some 110 => do skip; literal nullRest; return none
  | some 116 => do skip; literal trueRest; return none
  | some 102 => do skip; literal falseRest; return none
  | some 45 => do skip; Number.pass; return none
  | some 34 => do skip; passText; return none
  | some 91 => do skip; return some .list
  | some 123 => do skip; return some .object
  | some b => if isDigitByte b then do Number.pass; return none else failPast .noValue
  | none => failPast .endInValue

/-- Reads over values until nothing is open. Every round takes a byte. -/
def passOpen : Nat → List Frame → Reader Unit
  | 0, _ => return
  | fuel + 1, frames => do
    let rest ← match ← passStart with
      | some frame => passEnds false (frame :: frames)
      | none => passEnds true frames
    if rest.isEmpty then return else passOpen fuel rest

def passValue : Reader Unit := do passOpen ((← get).length + 1) []

end IPsecControl.Json
