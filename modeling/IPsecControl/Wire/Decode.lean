import IPsecControl.Wire.Encode
import IPsecControl.Text.Decimal

/-! Bytes to records. Fields may come in any order and more than once: a later
number, flag, code or text replaces the earlier one, a repeated field grows, and a
sub-message is merged into the one before it. A field the schema does not name is
skipped. A block may not be overrun by what is read inside it. -/
namespace IPsecControl.Wire
open Text

inductive DecodeCause where
  | invalidVarint
  | invalidKey (value : Nat)
  | invalidWireType (number : Nat)
  | zeroTag
  | wireTypeMismatch (found expected : WireType)
  | underflow
  | lengthExceeded
  | invalidText
  | unexpectedEndGroup
  | recursionLimit
  deriving DecidableEq, Repr

def DecodeCause.message : DecodeCause → String
  | .invalidVarint => "invalid varint"
  | .invalidKey value => "invalid key value: " ++ decimal value
  | .invalidWireType number => "invalid wire type value: " ++ decimal number
  | .zeroTag => "invalid tag value: 0"
  | .wireTypeMismatch found expected =>
    "invalid wire type: " ++ found.name ++ " (expected " ++ expected.name ++ ")"
  | .underflow => "buffer underflow"
  | .lengthExceeded => "delimited length exceeded"
  | .invalidText => "invalid string value: data is not UTF-8 encoded"
  | .unexpectedEndGroup => "unexpected end group tag"
  | .recursionLimit => "recursion limit reached"

/-- A cause and the fields it lies in, innermost first, each with its message type. -/
structure DecodeError where
  cause : DecodeCause
  path : List (String × String) := []
  deriving DecidableEq, Repr

/-- A field name that is a reserved word shows with its escape. -/
def fieldLabel (field : String) : String := if field = "type" then "r#type" else field

def DecodeError.message (e : DecodeError) : String :=
  "failed to decode Protobuf message: " ++
    String.join (e.path.map fun (owner, field) => owner ++ "." ++ fieldLabel field ++ ": ") ++
    e.cause.message

/-- Messages and groups may nest this deep. -/
def depthLimit : Nat := 100

def readVarint (bytes : Bytes) : Except DecodeCause (Nat × Bytes) :=
  match Varint.read? bytes with
  | some r => .ok r
  | none => .error .invalidVarint

/-- Reads the tag and wire type in front of a field. -/
def readKey (bytes : Bytes) : Except DecodeCause ((Nat × WireType) × Bytes) := do
  let (k, rest) ← readVarint bytes
  if 1 <<< 32 ≤ k then .error (.invalidKey k)
  else match WireType.ofNumber? (k % 8) with
    | none => .error (.invalidWireType (k % 8))
    | some type => if k / 8 = 0 then .error .zeroTag else .ok ((k / 8, type), rest)

def takeBytes (n : Nat) (bytes : Bytes) : Except DecodeCause (Bytes × Bytes) :=
  if bytes.length < n then .error .underflow else .ok (bytes.take n, bytes.drop n)

def readBlock (bytes : Bytes) : Except DecodeCause (Bytes × Bytes) := do
  let (n, rest) ← readVarint bytes
  takeBytes n rest

def expectType (expected found : WireType) : Except DecodeCause Unit :=
  if found = expected then .ok () else .error (.wireTypeMismatch found expected)

/-- Repeats a step while more than `limit` bytes are left, at most `fuel` times. -/
def repeatStep {ε α : Type} (step : α → Bytes → Except ε (α × Bytes)) (limit : Nat) :
    Nat → α → Bytes → Except ε (α × Bytes)
  | 0, a, bytes => .ok (a, bytes)
  | fuel + 1, a, bytes =>
    if limit < bytes.length then do
      let (a, bytes) ← step a bytes
      repeatStep step limit fuel a bytes
    else .ok (a, bytes)

/-- Reads a length and repeats a step until exactly that many bytes are used up.
Every step uses up at least one byte. -/
def withinBlock {ε α : Type} (fail : DecodeCause → ε) (step : α → Bytes → Except ε (α × Bytes))
    (a : α) (bytes : Bytes) : Except ε (α × Bytes) := do
  let (n, rest) ← (readVarint bytes).mapError fail
  if rest.length < n then .error (fail .underflow)
  else
    let limit := rest.length - n
    let (a, rest) ← repeatStep step limit n a rest
    if rest.length = limit then .ok (a, rest) else .error (fail .lengthExceeded)

/-- Skips the fields of a group up to its end key. -/
def skipGroup (skip : WireType → Nat → Bytes → Except DecodeCause Bytes) (tag : Nat) :
    Nat → Bytes → Except DecodeCause Bytes
  | 0, _ => .error .invalidVarint
  | fuel + 1, bytes => do
    let ((inner, type), rest) ← readKey bytes
    if type = .endGroup then
      if inner = tag then .ok rest else .error .unexpectedEndGroup
    else do
      let rest ← skip type inner rest
      skipGroup skip tag fuel rest

/-- Skips the value of a field that the schema does not name. -/
def skipField : Nat → WireType → Nat → Bytes → Except DecodeCause Bytes
  | 0, _, _, _ => .error .recursionLimit
  | depth + 1, type, tag, bytes =>
    match type with
    | .varint => (readVarint bytes).map (·.2)
    | .thirtyTwoBit => (takeBytes 4 bytes).map (·.2)
    | .sixtyFourBit => (takeBytes 8 bytes).map (·.2)
    | .lengthDelimited => (readBlock bytes).map (·.2)
    | .startGroup => skipGroup (skipField depth) tag bytes.length bytes
    | .endGroup => .error .unexpectedEndGroup

def readText (bytes : Bytes) : Except DecodeCause (String × Bytes) := do
  let (payload, rest) ← readBlock bytes
  match Utf8.text? payload with
  | some s => .ok (s, rest)
  | none => .error .invalidText

/-- The code in the low 32 bits of a number. -/
def numberCode (n : Nat) : Int32 := (UInt32.ofNat n).toInt32

def appendCode (cs : List Int32) (bytes : Bytes) : Except DecodeCause (List Int32 × Bytes) := do
  let (n, rest) ← readVarint bytes
  return (cs ++ [numberCode n], rest)

/-- Merges one value from the wire into a field. -/
def Scalar.merge (type : WireType) :
    (k : Scalar) → k.Value → Bytes → Except DecodeCause (k.Value × Bytes)
  | .text, _, input => do
    expectType .lengthDelimited type
    readText input
  | .bytes, _, input => do
    expectType .lengthDelimited type
    readBlock input
  | .word32, _, input => do
    expectType .varint type
    let (n, rest) ← readVarint input
    return (UInt32.ofNat n, rest)
  | .word64, _, input => do
    expectType .varint type
    let (n, rest) ← readVarint input
    return (UInt64.ofNat n, rest)
  | .flag, _, input => do
    expectType .varint type
    let (n, rest) ← readVarint input
    return (n != 0, rest)
  | .code, _, input => do
    expectType .varint type
    let (n, rest) ← readVarint input
    return (numberCode n, rest)
  | .texts, ss, input => do
    expectType .lengthDelimited type
    let (s, rest) ← readText input
    return (ss ++ [s], rest)
  | .codes, cs, input =>
    if type = .lengthDelimited then withinBlock id appendCode cs input
    else do
      expectType .varint type
      appendCode cs input

/-- A cause inside a field of the message type `owner`. -/
def DecodeError.inField (owner field : String) (e : DecodeError) : DecodeError :=
  { e with path := e.path ++ [(owner, field)] }

def causeInField (owner field : String) (c : DecodeCause) : DecodeError := ⟨c, [(owner, field)]⟩

/-- Reads a key and hands the field behind it to `merge`. -/
def mergeNext {α : Type} (merge : Nat → WireType → α → Bytes → Except DecodeError (α × Bytes))
    (a : α) (bytes : Bytes) : Except DecodeError (α × Bytes) := do
  let ((tag, type), rest) ← (readKey bytes).mapError (⟨·, []⟩)
  merge tag type a rest

/-- Merges a block into a sub-message, one level further down. -/
def mergeBlock {α : Type}
    (merge : Nat → Nat → WireType → α → Bytes → Except DecodeError (α × Bytes)) (depth : Nat)
    (type : WireType) (a : α) (bytes : Bytes) : Except DecodeError (α × Bytes) := do
  (expectType .lengthDelimited type).mapError (⟨·, []⟩)
  match depth with
  | 0 => .error ⟨.recursionLimit, []⟩
  | depth + 1 => withinBlock (⟨·, []⟩) (mergeNext (merge depth)) a bytes

namespace Schema

/-- Merges one field from the wire into a record of the message type `owner`. -/
def mergeField (owner : String) : (s : Schema) → (depth tag : Nat) → WireType → s.Record → Bytes →
    Except DecodeError (s.Record × Bytes)
  | .done, depth, tag, type, r, bytes =>
    ((skipField depth type tag bytes).mapError (⟨·, []⟩)).map (r, ·)
  | .scalar t field kind rest, depth, tag, type, (v, r), bytes =>
    if tag = t then
      ((kind.merge type v bytes).mapError (causeInField owner field)).map
        fun (v, bytes) => ((v, r), bytes)
    else (rest.mergeField owner depth tag type r bytes).map fun (r, bytes) => ((v, r), bytes)
  | .message t field name inner rest, depth, tag, type, (m, r), bytes =>
    if tag = t then
      ((mergeBlock (inner.mergeField name) depth type (m.getD inner.empty) bytes).mapError
        (·.inField owner field)).map fun (m, bytes) => ((some m, r), bytes)
    else (rest.mergeField owner depth tag type r bytes).map fun (r, bytes) => ((m, r), bytes)
  | .messages t field name inner rest, depth, tag, type, (ms, r), bytes =>
    if tag = t then
      ((mergeBlock (inner.mergeField name) depth type inner.empty bytes).mapError
        (·.inField owner field)).map fun (m, bytes) => ((ms ++ [m], r), bytes)
    else (rest.mergeField owner depth tag type r bytes).map fun (r, bytes) => ((ms, r), bytes)

/-- Merges the fields of a byte string into a record. -/
def merge (owner : String) (s : Schema) (r : s.Record) (bytes : Bytes) :
    Except DecodeError s.Record :=
  (repeatStep (mergeNext (s.mergeField owner depthLimit)) 0 bytes.length r bytes).map (·.1)

/-- Reads a byte string as a record of the message type `owner`. -/
def decode (owner : String) (s : Schema) (bytes : Bytes) : Except DecodeError s.Record :=
  s.merge owner s.empty bytes

end Schema
end IPsecControl.Wire
