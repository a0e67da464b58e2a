import IPsecControl.Wire.Varint

/-! Message schemas and their records. A schema lists the fields of a message in
the order of their tags; the record of a schema holds one value for each field. A
sub-message is absent or present, and a repeated field is a list. -/
namespace IPsecControl.Wire

/-- Field types other than messages. `texts` and `codes` repeat. -/
inductive Scalar where
  | text
  | bytes
  | word32
  | word64
  | flag
  | code
  | texts
  | codes
  deriving DecidableEq, Repr

/-- The values of a field. A code is the raw number of an enumeration. -/
abbrev Scalar.Value : Scalar → Type
  | .text => String
  | .bytes => Bytes
  | .word32 => UInt32
  | .word64 => UInt64
  | .flag => Bool
  | .code => Int32
  | .texts => List String
  | .codes => List Int32

/-- The value of a field that is not on the wire. -/
def Scalar.default : (k : Scalar) → k.Value
  | .text => ""
  | .bytes => []
  | .word32 => 0
  | .word64 => 0
  | .flag => false
  | .code => 0
  | .texts => []
  | .codes => []

/-- The fields of a message type. A sub-message carries the name of its type. -/
inductive Schema where
  | done
  | scalar (tag : Nat) (field : String) (kind : Scalar) (rest : Schema)
  | message (tag : Nat) (field name : String) (inner rest : Schema)
  | messages (tag : Nat) (field name : String) (inner rest : Schema)
  deriving DecidableEq, Repr

namespace Schema

/-- One value for each field. -/
abbrev Record : Schema → Type
  | .done => Unit
  | .scalar _ _ kind rest => kind.Value × rest.Record
  | .message _ _ _ inner rest => Option inner.Record × rest.Record
  | .messages _ _ _ inner rest => List inner.Record × rest.Record

/-- The record of a message without any field on the wire. -/
def empty : (s : Schema) → s.Record
  | .done => ()
  | .scalar _ _ kind rest => (kind.default, rest.empty)
  | .message _ _ _ _ rest => (none, rest.empty)
  | .messages _ _ _ _ rest => ([], rest.empty)

end Schema

/-- How the value of a field is laid out after its key. -/
inductive WireType where
  | varint
  | sixtyFourBit
  | lengthDelimited
  | startGroup
  | endGroup
  | thirtyTwoBit
  deriving DecidableEq, Repr

namespace WireType

def number : WireType → Nat
  | .varint => 0
  | .sixtyFourBit => 1
  | .lengthDelimited => 2
  | .startGroup => 3
  | .endGroup => 4
  | .thirtyTwoBit => 5

def ofNumber? : Nat → Option WireType
  | 0 => some .varint
  | 1 => some .sixtyFourBit
  | 2 => some .lengthDelimited
  | 3 => some .startGroup
  | 4 => some .endGroup
  | 5 => some .thirtyTwoBit
  | _ => none

theorem ofNumber?_number (w : WireType) : ofNumber? w.number = some w := by cases w <;> rfl

def name : WireType → String
  | .varint => "Varint"
  | .sixtyFourBit => "SixtyFourBit"
  | .lengthDelimited => "LengthDelimited"
  | .startGroup => "StartGroup"
  | .endGroup => "EndGroup"
  | .thirtyTwoBit => "ThirtyTwoBit"

end WireType
end IPsecControl.Wire
