import IPsecControl.Wire.Encode

/-! Sizes are lengths. What is computed as the size of a record, to be written in front of it as a
sub-message, is the number of bytes that its encoding has. -/
namespace IPsecControl.Wire
open Text

namespace Varint

theorem groups_length (more n : Nat) : (groups more n).length = sizeWithin more n := by
  induction more generalizing n with
  | zero => rfl
  | succ more ih =>
    rw [groups, sizeWithin]
    split
    · rfl
    · rw [List.length_cons, ih, Nat.add_comm]

@[simp] theorem encode_length (n : Nat) : (encode n).length = size n := groups_length 9 n

theorem size_pos (n : Nat) : 0 < size n := by
  rw [size, sizeWithin]
  split <;> omega

theorem sizeWithin_le (more n : Nat) : sizeWithin more n ≤ more + 1 := by
  induction more generalizing n with
  | zero => exact Nat.le_refl 1
  | succ more ih =>
    have later := ih (n / 128)
    rw [sizeWithin]
    split <;> omega

theorem size_le (n : Nat) : size n ≤ 10 := sizeWithin_le 9 n

/-- Numbers with the same bits above the lowest seven take the same number of bytes. -/
theorem sizeWithin_congr {n m : Nat} (same : n / 128 = m / 128) (more : Nat) :
    sizeWithin more n = sizeWithin more m := by
  cases more with
  | zero => rfl
  | succ more =>
    have few : n < 128 ↔ m < 128 := by omega
    simp only [sizeWithin, few, same]

end Varint

theorem WireType.number_lt (type : WireType) : type.number < 8 := by cases type <;> decide

@[simp] theorem key_length (tag : Nat) (type : WireType) : (key tag type).length = keySize tag := by
  have small := type.number_lt
  rw [key, Varint.encode_length]
  exact Varint.sizeWithin_congr (by omega) 9

@[simp] theorem block_length (tag : Nat) (payload : Bytes) :
    (block tag payload).length = blockSize tag payload.length := by
  simp [block, blockSize, Nat.add_assoc]

@[simp] theorem numberField_length (tag n : Nat) : (numberField tag n).length = numberSize tag n := by
  simp [numberField, numberSize]

@[simp] theorem utf8_length (s : String) : (Utf8.bytes s).length = s.utf8ByteSize := rfl

/-- What is written for each element in turn has the sizes of all elements together. -/
theorem flatMap_length {α : Type} {write : α → Bytes} {size : α → Nat}
    (lengths : ∀ a, (write a).length = size a) (as : List α) :
    (as.flatMap write).length = totalSize size as := by
  induction as with
  | nil => rfl
  | cons a rest ih => simp [totalSize, lengths, ih]

theorem packed_length (cs : List Int32) : (packed cs).length = packedSize cs :=
  flatMap_length (fun _ => Varint.encode_length _) cs

theorem Scalar.encode_length (tag : Nat) (k : Scalar) (v : k.Value) :
    (k.encode tag v).length = k.size tag v := by
  cases k with
  | texts => exact flatMap_length (fun s => by simp) _
  | flag => cases v <;> simp [encode, size, numberField, flagNumber, Varint.size, Varint.sizeWithin]
  | _ => simp only [encode, size]; split <;> simp [packed_length]

theorem blockSize_le (tag length : Nat) : blockSize tag length ≤ 20 + length := by
  have front := Varint.size_le (8 * tag)
  have count := Varint.size_le length
  rw [blockSize, keySize]
  omega

theorem numberSize_le (tag n : Nat) : numberSize tag n ≤ 20 := by
  have front := Varint.size_le (8 * tag)
  have number := Varint.size_le n
  rw [numberSize, keySize]
  omega

namespace Scalar

theorem text_size_le (tag : Nat) (s : String) : text.size tag s ≤ 20 + s.utf8ByteSize := by
  have written := blockSize_le tag s.utf8ByteSize
  rw [size]
  split <;> omega

theorem word32_size_le (tag : Nat) (n : UInt32) : word32.size tag n ≤ 20 := by
  have written := numberSize_le tag n.toNat
  rw [size]
  split <;> omega

theorem code_size_le (tag : Nat) (c : Int32) : code.size tag c ≤ 20 := by
  have written := numberSize_le tag (codeNumber c)
  rw [size]
  split <;> omega

end Scalar

/-- The computed size of a record is the length of its encoding. -/
theorem Schema.encode_length (s : Schema) (r : s.Record) : (s.encode r).length = s.size r := by
  induction s with
  | done => rfl
  | scalar tag _ kind rest ih =>
    obtain ⟨v, r⟩ := r
    simp [encode, size, Scalar.encode_length, ih]
  | message tag _ _ inner rest ihInner ih =>
    obtain ⟨m, r⟩ := r
    cases m with
    | none => simp [encode, size, ih]
    | some m => simp [encode, size, blockSize, ihInner, ih, Nat.add_assoc]
  | messages tag _ _ inner rest ihInner ih =>
    obtain ⟨ms, r⟩ := r
    simp only [encode, size, List.length_append, ih, Nat.add_right_cancel_iff]
    exact flatMap_length (fun m => by simp [blockSize, ihInner, Nat.add_assoc]) ms

end IPsecControl.Wire
