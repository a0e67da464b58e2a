import IPsecControl.Wire.Schema
import IPsecControl.Text.Utf8

/-! Records to bytes. Fields go out in the order of the schema, a field that holds
its default is left out, and a repeated code is one packed block. The length in
front of a sub-message is `size`, computed without writing it. -/
namespace IPsecControl.Wire
open Text

def key (tag : Nat) (type : WireType) : Bytes := Varint.encode (8 * tag + type.number)

/-- A key and a block of bytes with its length. -/
def block (tag : Nat) (payload : Bytes) : Bytes :=
  key tag .lengthDelimited ++ Varint.encode payload.length ++ payload

/-- A code as a number: its 32 bits, sign extended to 64. -/
def codeNumber (c : Int32) : Nat := c.toInt64.toUInt64.toNat

def flagNumber (b : Bool) : Nat := if b then 1 else 0

def numberField (tag n : Nat) : Bytes := key tag .varint ++ Varint.encode n

def packed (cs : List Int32) : Bytes := cs.flatMap fun c => Varint.encode (codeNumber c)

def Scalar.encode (tag : Nat) : (k : Scalar) → k.Value → Bytes
  | .text, (s : String) => if s = "" then [] else block tag (Utf8.bytes s)
  | .bytes, (b : Bytes) => if b = [] then [] else block tag b
  | .word32, (n : UInt32) => if n = 0 then [] else numberField tag n.toNat
  | .word64, (n : UInt64) => if n = 0 then [] else numberField tag n.toNat
  | .flag, (b : Bool) => if b = false then [] else numberField tag (flagNumber b)
  | .code, (c : Int32) => if c = 0 then [] else numberField tag (codeNumber c)
  | .texts, (ss : List String) => ss.flatMap fun s => block tag (Utf8.bytes s)
  | .codes, (cs : List Int32) => if cs = [] then [] else block tag (packed cs)

def keySize (tag : Nat) : Nat := Varint.size (8 * tag)

def blockSize (tag length : Nat) : Nat := keySize tag + Varint.size length + length

def numberSize (tag n : Nat) : Nat := keySize tag + Varint.size n

/-- The sizes of all elements together. -/
def totalSize {α : Type} (size : α → Nat) (as : List α) : Nat :=
  as.foldr (fun a total => size a + total) 0

def packedSize (cs : List Int32) : Nat := totalSize (fun c => Varint.size (codeNumber c)) cs

def Scalar.size (tag : Nat) : (k : Scalar) → k.Value → Nat
  | .text, (s : String) => if s = "" then 0 else blockSize tag s.utf8ByteSize
  | .bytes, (b : Bytes) => if b = [] then 0 else blockSize tag b.length
  | .word32, (n : UInt32) => if n = 0 then 0 else numberSize tag n.toNat
  | .word64, (n : UInt64) => if n = 0 then 0 else numberSize tag n.toNat
  | .flag, (b : Bool) => if b = false then 0 else keySize tag + 1
  | .code, (c : Int32) => if c = 0 then 0 else numberSize tag (codeNumber c)
  | .texts, (ss : List String) => totalSize (fun s => blockSize tag s.utf8ByteSize) ss
  | .codes, (cs : List Int32) => if cs = [] then 0 else blockSize tag (packedSize cs)

namespace Schema

def size : (s : Schema) → s.Record → Nat
  | .done, _ => 0
  | .scalar tag _ kind rest, (v, r) => kind.size tag v + rest.size r
  | .message tag _ _ inner rest, (m, r) =>
    (match m with
      | none => 0
      | some m => blockSize tag (inner.size m)) + rest.size r
  | .messages tag _ _ inner rest, (ms, r) =>
    totalSize (fun m => blockSize tag (inner.size m)) ms + rest.size r

def encode : (s : Schema) → s.Record → Bytes
  | .done, _ => []
  | .scalar tag _ kind rest, (v, r) => kind.encode tag v ++ rest.encode r
  | .message tag _ _ inner rest, (m, r) =>
    (match m with
      | none => []
      | some m =>
        key tag .lengthDelimited ++ Varint.encode (inner.size m) ++ inner.encode m) ++
    rest.encode r
  | .messages tag _ _ inner rest, (ms, r) =>
    (ms.flatMap fun m =>
      key tag .lengthDelimited ++ Varint.encode (inner.size m) ++ inner.encode m) ++
    rest.encode r

end Schema
end IPsecControl.Wire
