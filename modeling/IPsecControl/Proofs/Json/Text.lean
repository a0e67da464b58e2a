import IPsecControl.Json.Text
import IPsecControl.Proofs.Text.Utf8

/-! Strings in JSON texts. A string that was written is read back, whatever comes after it, and what is
written is text. -/
namespace IPsecControl.Json
open Reader Text

theorem Reader.bind_ok {α β : Type} {m : Reader α} {f : α → Reader β} {a : α} {bytes rest : Bytes}
    (read : m bytes = .ok (a, rest)) : (m >>= f) bytes = f a rest := by
  change (m bytes >>= fun (a, rest) => f a rest) = _
  rw [read]
  rfl

theorem get_apply (bytes : Bytes) : (get : Reader Bytes) bytes = .ok (bytes, bytes) := rfl

/-! ### Escapes -/

theorem required_cons (b : UInt8) (rest : Bytes) : required (b :: rest) = .ok (b, rest) := rfl

theorem take?_cons (b : UInt8) (rest : Bytes) : take? (b :: rest) = .ok (some b, rest) := rfl

/-- The letter of a short escape stands for the byte that it was written for. -/
theorem unescape?_letter {b letter : UInt8} (short : shortEscape? b = some letter) :
    letter ≠ 117 ∧ unescape? letter = some b := by
  unfold shortEscape? at short
  repeat' split at short
  all_goals cases short
  all_goals subst_vars; decide

theorem escape_short {b letter : UInt8} (short : shortEscape? b = some letter) (rest : Bytes) :
    escape (letter :: rest) = .ok ([b], rest) := by
  obtain ⟨plain, back⟩ := unescape?_letter short
  rw [escape, bind_ok (required_cons letter rest)]
  simp only [if_neg plain, back]
  rfl

/-- The digits of a control character are those of its number. -/
theorem fourHex?_control : ∀ n < 32,
    fourHex? 48 48 (hexDigitByte (n / 16)) (hexDigitByte (n % 16)) = some n := by
  decide

theorem escape_control {b : UInt8} (control : b.toNat < 32) (rest : Bytes) :
    escape (117 :: 48 :: 48 :: hexDigitByte (b.toNat / 16) :: hexDigitByte (b.toNat % 16) :: rest) =
      .ok ([b], rest) := by
  have unit : codeUnit (48 :: 48 :: hexDigitByte (b.toNat / 16) :: hexDigitByte (b.toNat % 16) :: rest) =
      .ok (b.toNat, rest) := by
    rw [codeUnit, fourHex?_control _ control]
  have alone : isTrailing b.toNat = false ∧ isLeading b.toNat = false := by
    simp only [isTrailing, isLeading, Bool.and_eq_false_iff, decide_eq_false_iff_not]
    omega
  have single : Utf8.bytes (String.singleton (Char.ofNat b.toNat)) = [b] := by
    rw [Utf8.bytes_eq_flatMap, String.toList_singleton, List.flatMap_singleton,
      Utf8.ascii_char (by omega)]
  have char : escapedChar (48 :: 48 :: hexDigitByte (b.toNat / 16) :: hexDigitByte (b.toNat % 16) :: rest) =
      .ok (Char.ofNat b.toNat, rest) := by
    rw [escapedChar, bind_ok unit]
    simp only [alone, Bool.false_eq_true, if_false]
    rfl
  rw [escape, bind_ok (required_cons 117 _)]
  simp only [if_true]
  rw [bind_ok char, single]
  rfl

/-! ### Strings -/

/-- A byte of a string is read back, however it is escaped. -/
theorem stringBytes_escapedByte (fuel : Nat) (read : Bytes) (b : UInt8) (rest : Bytes) :
    stringBytes (fuel + 1) read (escapedByte b ++ rest) = stringBytes fuel (b :: read) rest := by
  rw [stringBytes]
  unfold escapedByte
  cases short : shortEscape? b with
  | some letter =>
    simp only [List.cons_append, List.nil_append]
    rw [bind_ok (take?_cons 92 _)]
    simp only [show ¬ ((92 : UInt8) = 34) by decide, if_false, if_true]
    rw [bind_ok (escape_short short rest)]
    rfl
  | none =>
    by_cases control : b < 32
    · have small : b.toNat < 32 := control
      simp only [if_pos control, List.cons_append, List.nil_append]
      rw [bind_ok (take?_cons 92 _)]
      simp only [show ¬ ((92 : UInt8) = 34) by decide, if_false, if_true]
      rw [bind_ok (escape_control small rest)]
      rfl
    · have plain : b ≠ 34 ∧ b ≠ 92 := by
        constructor <;> (rintro rfl; simp [shortEscape?] at short)
      simp only [if_neg control, List.cons_append, List.nil_append]
      rw [bind_ok (take?_cons b _)]
      simp only [if_neg plain.1, if_neg plain.2, if_neg control]

theorem stringBytes_escaped (bs read rest : Bytes) {fuel : Nat} (enough : bs.length < fuel) :
    stringBytes fuel read (bs.flatMap escapedByte ++ 34 :: rest) = .ok (read.reverse ++ bs, rest) := by
  induction bs generalizing fuel read with
  | nil =>
    obtain ⟨fuel, rfl⟩ := Nat.exists_eq_succ_of_ne_zero (Nat.ne_of_gt enough)
    rw [List.flatMap_nil, List.nil_append, stringBytes, bind_ok (take?_cons 34 rest)]
    simp only [if_true, List.append_nil]
    rfl
  | cons b bs ih =>
    obtain ⟨fuel, rfl⟩ := Nat.exists_eq_succ_of_ne_zero (Nat.ne_of_gt (Nat.zero_lt_of_lt enough))
    rw [List.flatMap_cons, List.append_assoc, stringBytes_escapedByte,
      ih (b :: read) (Nat.lt_of_succ_lt_succ enough)]
    simp

theorem escapedByte_length (b : UInt8) : 0 < (escapedByte b).length := by
  unfold escapedByte
  split
  · exact Nat.succ_pos _
  · split <;> exact Nat.succ_pos _

theorem length_le_escaped (bs : Bytes) : bs.length ≤ (bs.flatMap escapedByte).length := by
  induction bs with
  | nil => exact Nat.le_refl 0
  | cons b rest ih =>
    have positive := escapedByte_length b
    rw [List.flatMap_cons, List.length_append, List.length_cons]
    omega

/-- A string is read back behind its opening quote. -/
theorem readText_escaped (s : String) (rest : Bytes) :
    readText ((Utf8.bytes s).flatMap escapedByte ++ 34 :: rest) = .ok (s, rest) := by
  have within := length_le_escaped (Utf8.bytes s)
  have enough : (Utf8.bytes s).length <
      ((Utf8.bytes s).flatMap escapedByte ++ 34 :: rest).length + 1 := by
    rw [List.length_append]
    omega
  have read := stringBytes_escaped (Utf8.bytes s) [] rest enough
  rw [readText, bind_ok (get_apply _), bind_ok read]
  simp only [List.reverse_nil, List.nil_append, Utf8.text?_bytes, Option.getD_some]
  rfl

/-- What is written of a byte below 128 is below 128. -/
theorem escapedByte_ascii {b : UInt8} (small : b.toNat < 0x80) :
    (escapedByte b).all (·.toNat < 0x80) = true := by
  have all : ∀ n < 0x80, (escapedByte (UInt8.ofNat n)).all (·.toNat < 0x80) = true := by decide
  have shown := all b.toNat small
  rwa [UInt8.ofNat_toNat] at shown

theorem escapedByte_high {b : UInt8} (high : 0x80 ≤ b.toNat) : escapedByte b = [b] := by
  have all : ∀ n < 0x80, escapedByte (UInt8.ofNat (n + 0x80)) = [UInt8.ofNat (n + 0x80)] := by decide
  have bound := b.toNat_lt
  have shown := all (b.toNat - 0x80) (by omega)
  rwa [Nat.sub_add_cancel high, UInt8.ofNat_toNat] at shown

theorem escaped_high {bs : Bytes} (high : ∀ b ∈ bs, 0x80 ≤ b.toNat) : bs.flatMap escapedByte = bs := by
  induction bs with
  | nil => rfl
  | cons b rest ih =>
    obtain ⟨first, later⟩ := List.forall_mem_cons.mp high
    rw [List.flatMap_cons, escapedByte_high first, ih later]
    rfl

/-- A string in a JSON text is text. -/
theorem textBytes_isText (s : String) : Utf8.IsText (textBytes s) := by
  have quote : Utf8.IsText [34] := .ascii (by decide)
  refine quote.append (Utf8.IsText.append ?_ quote)
  rw [Utf8.bytes_eq_flatMap, List.flatMap_assoc]
  refine .flatMap fun c _ => ?_
  obtain ⟨b, single, small⟩ | high := Utf8.char_bytes c
  · rw [single, List.flatMap_singleton]
    exact .ascii (escapedByte_ascii small)
  · rw [escaped_high high, ← List.flatMap_singleton String.utf8EncodeChar c]
    exact .chars [c]

end IPsecControl.Json
