import IPsecControl.Proofs.Wire.Sizes
import IPsecControl.Wire.Decode
import Mathlib.Algebra.Group.Nat.Defs

/-! Reading back what was written, in front of anything else. Blocks are read by a step that is
repeated; `Steps` says that the chunks of a byte string take a value to another one by one, each
whatever comes after it. -/
namespace IPsecControl.Wire
open Text

namespace Varint

theorem readWithin_groups (more n : Nat) (fits : n < 2 * 128 ^ more) (rest : Bytes) :
    readWithin (more + 1) (groups more n ++ rest) = some (n, rest) := by
  induction more generalizing n with
  | zero =>
    have small : (UInt8.ofNat n).toNat = n :=
      UInt8.toNat_ofNat_of_lt' (show _ < 256 by omega)
    simp only [groups, List.singleton_append, readWithin, small]
    rw [if_pos (by omega), if_neg (by omega)]
  | succ more ih =>
    rw [groups]
    by_cases last : n < 128
    · have small : (UInt8.ofNat n).toNat = n :=
        UInt8.toNat_ofNat_of_lt' (show _ < 256 by omega)
      rw [if_pos last]
      simp only [List.singleton_append, readWithin, small]
      rw [if_pos last, if_neg (by omega)]
    · have small : (UInt8.ofNat (128 + n % 128)).toNat = 128 + n % 128 :=
        UInt8.toNat_ofNat_of_lt' (show _ < 256 by omega)
      have later := ih (n / 128) (by rw [Nat.pow_succ] at fits; omega)
      rw [if_neg last]
      simp only [List.cons_append, readWithin, small, later, Option.map_some]
      rw [if_neg (by omega)]
      congr 2
      omega

/-- A number below `2 ^ 64` is read back. -/
theorem read?_encode {n : Nat} (fits : n < 2 ^ 64) (rest : Bytes) :
    read? (encode n ++ rest) = some (n, rest) :=
  readWithin_groups 9 n (by omega) rest

end Varint

theorem readVarint_encode {n : Nat} (fits : n < 2 ^ 64) (rest : Bytes) :
    readVarint (Varint.encode n ++ rest) = .ok (n, rest) := by
  rw [readVarint, Varint.read?_encode fits]

@[simp] theorem mapError_ok {ε ε' α : Type} (fail : ε → ε') (a : α) :
    (.ok a : Except ε α).mapError fail = .ok a := rfl

theorem takeBytes_append (payload rest : Bytes) :
    takeBytes payload.length (payload ++ rest) = .ok (payload, rest) := by
  simp [takeBytes]

theorem readBlock_encode {payload : Bytes} (fits : payload.length < 2 ^ 64) (rest : Bytes) :
    readBlock (Varint.encode payload.length ++ payload ++ rest) = .ok (payload, rest) := by
  rw [readBlock, List.append_assoc, readVarint_encode fits]
  exact takeBytes_append payload rest

theorem readText_encode {text : String} (fits : (Utf8.bytes text).length < 2 ^ 64) (rest : Bytes) :
    readText (Varint.encode (Utf8.bytes text).length ++ Utf8.bytes text ++ rest) = .ok (text, rest) := by
  rw [readText, readBlock_encode fits]
  simp [bind, Except.bind, Utf8.text?_bytes]

/-- A tag that a schema may give to a field. -/
def IsTag (tag : Nat) : Prop := 0 < tag ∧ tag < 2 ^ 29

theorem readKey_key {tag : Nat} (tagged : IsTag tag) (type : WireType) (rest : Bytes) :
    readKey (key tag type ++ rest) = .ok ((tag, type), rest) := by
  obtain ⟨positive, bounded⟩ := tagged
  have small := type.number_lt
  have number : (8 * tag + type.number) % 8 = type.number := by omega
  have shifted : (8 * tag + type.number) / 8 = tag := by omega
  rw [readKey, key, readVarint_encode (by omega)]
  simp only [bind, Except.bind]
  rw [if_neg (by omega), number, shifted, WireType.ofNumber?_number]
  simp only
  rw [if_neg (by omega)]

/-- The low 32 bits of a sign extension are what was extended. -/
theorem setWidth_signExtend (x : BitVec 32) : (x.signExtend 64).setWidth 32 = x := by
  ext i low
  have within : i < 64 := Nat.lt_trans low (by decide)
  rw [BitVec.getElem_setWidth, BitVec.getLsbD_signExtend, if_pos low, BitVec.getLsbD_eq_getElem low]
  simp [within]

theorem numberCode_codeNumber (c : Int32) : numberCode (codeNumber c) = c := by
  rw [numberCode, codeNumber, UInt32.ofNat_uInt64ToNat, ← Int32.toBitVec_inj]
  exact setWidth_signExtend c.toBitVec

theorem codeNumber_lt (c : Int32) : codeNumber c < 2 ^ 64 := UInt64.toNat_lt _

/-- The byte string is cut into chunks, each of which the step takes off whatever comes after it. -/
inductive Steps {ε α : Type} (step : α → Bytes → Except ε (α × Bytes)) : α → Bytes → α → Prop where
  | done (a : α) : Steps step a [] a
  | next {a b c : α} {chunk rest : Bytes} (some : chunk ≠ [])
      (reads : ∀ tail, step a (chunk ++ tail) = .ok (b, tail)) (later : Steps step b rest c) :
      Steps step a (chunk ++ rest) c

namespace Steps
variable {ε α : Type} {step : α → Bytes → Except ε (α × Bytes)} {a b c : α} {bytes more : Bytes}

/-- Repeating the step takes off all the chunks and nothing else. -/
theorem repeatStep (steps : Steps step a bytes b) (tail : Bytes) {fuel : Nat}
    (enough : bytes.length ≤ fuel) :
    Wire.repeatStep step tail.length fuel a (bytes ++ tail) = .ok (b, tail) := by
  induction steps generalizing fuel with
  | done a =>
    cases fuel with
    | zero => rfl
    | succ fuel =>
      rw [Wire.repeatStep, List.nil_append]
      exact if_neg (Nat.lt_irrefl _)
  | @next a b c chunk rest some reads later ih =>
    have positive := List.length_pos_iff.mpr some
    rw [List.length_append] at enough
    cases fuel with
    | zero => omega
    | succ fuel =>
      have left : tail.length < (chunk ++ rest ++ tail).length := by
        simp only [List.length_append]
        omega
      rw [Wire.repeatStep, if_pos left, List.append_assoc, reads]
      exact ih (by omega)

/-- A block holds the chunks if its length is theirs. -/
theorem withinBlock (steps : Steps step a bytes b) (fail : DecodeCause → ε)
    (fits : bytes.length < 2 ^ 64) (tail : Bytes) :
    Wire.withinBlock fail step a (Varint.encode bytes.length ++ bytes ++ tail) = .ok (b, tail) := by
  rw [Wire.withinBlock, List.append_assoc, readVarint_encode fits]
  simp only [mapError_ok, bind, Except.bind, List.length_append, Nat.add_sub_cancel_left]
  rw [if_neg (by omega), steps.repeatStep tail (Nat.le_refl _)]
  simp

end Steps

/-- A step that reads a code appends it. -/
theorem packed_steps (cs ds : List Int32) : Steps appendCode cs (packed ds) (cs ++ ds) := by
  induction ds generalizing cs with
  | nil =>
    rw [List.append_nil]
    exact .done cs
  | cons d rest ih =>
    have later := ih (cs ++ [d])
    rw [List.append_assoc] at later
    refine .next ?_ (fun tail => ?_) later
    · exact List.ne_nil_of_length_pos (Varint.encode_length _ ▸ Varint.size_pos _)
    · rw [appendCode, readVarint_encode (codeNumber_lt d)]
      simp [bind, Except.bind, pure, Except.pure, numberCode_codeNumber]

end IPsecControl.Wire
