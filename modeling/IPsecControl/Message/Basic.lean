import IPsecControl.Wire.Decode

/-! Messages. A message type has a name, a schema, and the same data as the
schema's records, so that its bytes are those of its record. -/
namespace IPsecControl
open Wire

/-- A type of messages. -/
class Message (α : Type) where
  name : String
  schema : Schema
  toRecord : α → schema.Record
  ofRecord : schema.Record → α
  ofRecord_toRecord : ∀ m, ofRecord (toRecord m) = m
  toRecord_ofRecord : ∀ r, toRecord (ofRecord r) = r

namespace Message

attribute [simp] ofRecord_toRecord toRecord_ofRecord

section
variable {α : Type} [Message α]

def encode (m : α) : Bytes := (schema α).encode (toRecord m)

def size (m : α) : Nat := (schema α).size (toRecord m)

def decode (bytes : Bytes) : Except DecodeError α :=
  ((schema α).decode (name α) bytes).map ofRecord

@[simp] theorem ofRecord_comp_toRecord :
    (ofRecord ∘ toRecord : α → α) = id := funext ofRecord_toRecord

theorem option_toRecord_ofRecord (r : Option (schema α).Record) :
    (r.map ofRecord).map toRecord = r := by cases r <;> simp

theorem list_toRecord_ofRecord (rs : List (schema α).Record) :
    (rs.map ofRecord).map toRecord = rs := by induction rs <;> simp_all

end
end Message
end IPsecControl
