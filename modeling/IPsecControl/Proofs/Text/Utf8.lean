import IPsecControl.Text.Utf8

/-! Texts and their bytes, character by character. Reading the bytes of a text finds its characters
again, and what is put together from bytes of texts is the bytes of a text. -/
namespace IPsecControl.Text.Utf8

theorem bytes_eq_flatMap (text : String) : bytes text = text.toList.flatMap String.utf8EncodeChar := by
  rw [bytes, ← String.utf8Encode_toList, List.utf8Encode, List.toList_data_toByteArray]

theorem bytes_ofList (cs : List Char) : bytes (String.ofList cs) = cs.flatMap String.utf8EncodeChar := by
  rw [bytes_eq_flatMap, String.toList_ofList]

theorem bytes_ofList_length_le (cs : List Char) :
    (bytes (String.ofList cs)).length ≤ 4 * cs.length := by
  rw [bytes_ofList]
  induction cs with
  | nil => exact Nat.le_refl 0
  | cons c cs ih =>
    have first := c.utf8Size_le_four
    simp only [List.flatMap_cons, List.length_append, List.length_cons,
      String.length_utf8EncodeChar]
    omega

/-- A continuation byte brings its six bits. -/
theorem finish_continuation {bits low high tails m : Nat} {rest : List UInt8} (small : m < 64)
    (above : low ≤ m + 0x80) (below : m + 0x80 ≤ high) :
    finish bits low high (tails + 1) (UInt8.ofNat (m + 0x80) :: rest) =
      finish (bits * 64 + m) 0x80 0xBF tails rest := by
  have byte : (UInt8.ofNat (m + 0x80)).toNat = m + 0x80 :=
    UInt8.toNat_ofNat_of_lt' (show _ < 256 by omega)
  have six : (m + 0x80) % 64 = m := by omega
  simp only [finish, byte, six, above, below, decide_true, Bool.and_self, if_true]

/-- The scalar values leave out the surrogates. -/
theorem scalar_bounds (c : Char) : c.toNat < 0xD800 ∨ 0xE000 ≤ c.toNat ∧ c.toNat < 0x110000 := by
  obtain low | ⟨high, below⟩ := c.valid
  · exact .inl low
  · exact .inr ⟨high, below⟩

/-- The bytes of a character are read as that character, whatever comes after them. -/
theorem next_char (c : Char) : ∃ b tail, String.utf8EncodeChar c = b :: tail ∧
    ∀ rest, next b (tail ++ rest) = (some c, rest) := by
  have scalar := scalar_bounds c
  have whole : some (Char.ofNat c.toNat) = some c := congrArg some (Char.ofNat_toNat c)
  generalize value : c.toNat = v at scalar whole
  have code : c.val.toNat = v := value
  simp only [String.utf8EncodeChar, code]
  by_cases one : v ≤ 0x7F
  · rw [if_pos one]
    refine ⟨_, _, rfl, fun rest => ?_⟩
    have lead : lead? v = some ⟨v, 0x80, 0xBF, 0⟩ := if_pos (by omega)
    rw [next, UInt8.toNat_ofNat_of_lt' (show _ < 256 by omega), lead]
    simp only [finish, whole, List.nil_append]
  rw [if_neg one]
  by_cases two : v ≤ 0x7FF
  · rw [if_pos two]
    refine ⟨_, _, rfl, fun rest => ?_⟩
    have first : v / 64 % 0x20 + 0xC0 = v / 64 + 0xC0 := by omega
    have lead : lead? (v / 64 + 0xC0) = some ⟨v / 64, 0x80, 0xBF, 1⟩ := by
      rw [lead?, if_neg (by omega), if_neg (by omega), if_pos (by omega), Nat.add_sub_cancel]
    rw [first, next, UInt8.toNat_ofNat_of_lt' (show _ < 256 by omega), lead]
    simp only [List.cons_append, List.nil_append]
    rw [finish_continuation (by omega) (by omega) (by omega)]
    have sum : v / 64 * 64 + v % 64 = v := by omega
    simp only [finish, sum, whole]
  rw [if_neg two]
  by_cases three : v ≤ 0xFFFF
  · rw [if_pos three]
    refine ⟨_, _, rfl, fun rest => ?_⟩
    have first : v / 4096 % 0x10 + 0xE0 = v / 4096 + 0xE0 := by omega
    -- The second byte after 0xE0 is high, for shorter encodings; after 0xED it is low, for surrogates.
    have lead : lead? (v / 4096 + 0xE0) = some ⟨v / 4096, if v / 4096 + 0xE0 = 0xE0 then 0xA0 else 0x80,
        if v / 4096 + 0xE0 = 0xED then 0x9F else 0xBF, 2⟩ := by
      rw [lead?, if_neg (by omega), if_neg (by omega), if_neg (by omega), if_pos (by omega),
        Nat.add_sub_cancel]
    rw [first, next, UInt8.toNat_ofNat_of_lt' (show _ < 256 by omega), lead]
    simp only [List.cons_append, List.nil_append]
    rw [finish_continuation (by omega) (by split <;> omega) (by split <;> omega),
      finish_continuation (by omega) (by omega) (by omega)]
    have sum : (v / 4096 * 64 + v / 64 % 64) * 64 + v % 64 = v := by omega
    simp only [finish, sum, whole]
  · rw [if_neg three]
    refine ⟨_, _, rfl, fun rest => ?_⟩
    have first : v / 262144 % 0x08 + 0xF0 = v / 262144 + 0xF0 := by omega
    have lead : lead? (v / 262144 + 0xF0) = some ⟨v / 262144,
        if v / 262144 + 0xF0 = 0xF0 then 0x90 else 0x80,
        if v / 262144 + 0xF0 = 0xF4 then 0x8F else 0xBF, 3⟩ := by
      rw [lead?, if_neg (by omega), if_neg (by omega), if_neg (by omega), if_neg (by omega),
        if_pos (by omega), Nat.add_sub_cancel]
    rw [first, next, UInt8.toNat_ofNat_of_lt' (show _ < 256 by omega), lead]
    simp only [List.cons_append, List.nil_append]
    rw [finish_continuation (by omega) (by split <;> omega) (by split <;> omega),
      finish_continuation (by omega) (by omega) (by omega),
      finish_continuation (by omega) (by omega) (by omega)]
    have sum : ((v / 262144 * 64 + v / 4096 % 64) * 64 + v / 64 % 64) * 64 + v % 64 = v := by omega
    simp only [finish, sum, whole]

/-- The characters of the bytes of a text are those of the text. -/
theorem lossy_bytes (text : String) : lossy (bytes text) = text.toList := by
  rw [bytes_eq_flatMap]
  induction text.toList with
  | nil => rw [List.flatMap_nil, lossy]
  | cons c rest ih =>
    obtain ⟨b, tail, encoded, reads⟩ := next_char c
    rw [List.flatMap_cons, encoded, List.cons_append, lossy, reads, ih]
    rfl

/-- A byte below 128 is the character of its number. -/
theorem ascii_char {b : UInt8} (small : b.toNat < 0x80) :
    String.utf8EncodeChar (Char.ofNat b.toNat) = [b] := by
  have code : (Char.ofNat b.toNat).val.toNat = b.toNat := by
    rw [Char.ofNat, dif_pos (.inl (by omega))]
    rfl
  rw [String.utf8EncodeChar]
  simp only [code]
  rw [if_pos (by omega), UInt8.ofNat_toNat]

/-- The bytes are those of a text. -/
def IsText (bs : List UInt8) : Prop := ∃ text, bytes text = bs

namespace IsText
variable {bs cs : List UInt8}

theorem chars (cs : List Char) : IsText (cs.flatMap String.utf8EncodeChar) :=
  ⟨String.ofList cs, bytes_ofList cs⟩

theorem append (first : IsText bs) (second : IsText cs) : IsText (bs ++ cs) := by
  obtain ⟨s, rfl⟩ := first
  obtain ⟨t, rfl⟩ := second
  rw [bytes_eq_flatMap, bytes_eq_flatMap, ← List.flatMap_append]
  exact chars _

theorem nil : IsText [] := chars []

theorem flatMap {α : Type} {write : α → List UInt8} {as : List α} (texts : ∀ a ∈ as, IsText (write a)) :
    IsText (as.flatMap write) := by
  induction as with
  | nil => exact nil
  | cons a rest ih =>
    exact (texts a List.mem_cons_self).append (ih fun b member => texts b (List.mem_cons_of_mem a member))

/-- Bytes below 128 are characters of their own. -/
theorem ascii (small : bs.all (·.toNat < 0x80) = true) : IsText bs := by
  rw [← List.flatMap_singleton' bs]
  refine flatMap fun b member => ?_
  have below : b.toNat < 0x80 := of_decide_eq_true (List.all_eq_true.mp small b member)
  have one := chars [Char.ofNat b.toNat]
  rwa [List.flatMap_singleton, ascii_char below] at one

/-- A text is found again in its bytes. -/
theorem bytes_lossy (text : IsText bs) : bytes (String.ofList (lossy bs)) = bs := by
  obtain ⟨s, rfl⟩ := text
  rw [lossy_bytes, String.ofList_toList]

end IsText

theorem high_byte {n : Nat} (above : 0x80 ≤ n) (below : n < 256) : 0x80 ≤ (UInt8.ofNat n).toNat := by
  rwa [UInt8.toNat_ofNat_of_lt' below]

/-- A character is one byte below 128, or all its bytes are above. -/
theorem char_bytes (c : Char) : (∃ b, String.utf8EncodeChar c = [b] ∧ b.toNat < 0x80) ∨
    ∀ b ∈ String.utf8EncodeChar c, 0x80 ≤ b.toNat := by
  have scalar := scalar_bounds c
  generalize value : c.toNat = v at scalar
  have code : c.val.toNat = v := value
  simp only [String.utf8EncodeChar, code]
  by_cases one : v ≤ 0x7F
  · rw [if_pos one]
    exact .inl ⟨_, rfl, by rw [UInt8.toNat_ofNat_of_lt' (show _ < 256 by omega)]; omega⟩
  · rw [if_neg one]
    refine .inr ?_
    split
    · simp only [List.forall_mem_cons, List.not_mem_nil, false_implies, implies_true, and_true]
      exact ⟨high_byte (by omega) (by omega), high_byte (by omega) (by omega)⟩
    split
    · simp only [List.forall_mem_cons, List.not_mem_nil, false_implies, implies_true, and_true]
      exact ⟨high_byte (by omega) (by omega), high_byte (by omega) (by omega),
        high_byte (by omega) (by omega)⟩
    · simp only [List.forall_mem_cons, List.not_mem_nil, false_implies, implies_true, and_true]
      exact ⟨high_byte (by omega) (by omega), high_byte (by omega) (by omega),
        high_byte (by omega) (by omega), high_byte (by omega) (by omega)⟩

end IPsecControl.Text.Utf8
