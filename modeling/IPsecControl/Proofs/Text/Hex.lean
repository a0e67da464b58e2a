import IPsecControl.Proofs.Text.Utf8
import IPsecControl.Text.Hex
import Mathlib.Data.List.Induction

/-! Byte strings in hexadecimal. A text is read if and only if it is two digits for each byte, each digit
in either case. The reader looks at the bytes of the text, which makes no difference: a byte of a
character outside of ASCII is no digit. -/
namespace IPsecControl.Text.Hex

/-- The digits of all values, in lower case. -/
def lowerDigits : List Char := "0123456789abcdef".toList

/-- The digits of all values, in upper case. -/
def upperDigits : List Char := "0123456789ABCDEF".toList

/-- The character stands for the value. -/
def Digit (d : Nat) (c : Char) : Prop := lowerDigits[d]? = some c ∨ upperDigits[d]? = some c

/-- The character stands for some value. -/
def IsDigit (c : Char) : Prop := c ∈ lowerDigits ∨ c ∈ upperDigits

instance (d : Nat) (c : Char) : Decidable (Digit d c) := inferInstanceAs (Decidable (_ ∨ _))
instance : DecidablePred IsDigit := fun _ => inferInstanceAs (Decidable (_ ∨ _))

/-- The text is two digits for each byte, the higher one first. -/
inductive Spells : List Char → List UInt8 → Prop where
  | nil : Spells [] []
  | byte {b : UInt8} {bytes : List UInt8} {high low : Char} {cs : List Char} :
      Digit (b.toNat / 16) high → Digit (b.toNat % 16) low → Spells cs bytes →
      Spells (high :: low :: cs) (b :: bytes)

variable {c : Char} {cs : List Char} {bytes : List UInt8} {d : Nat}

theorem isDigit_iff : IsDigit c ↔ ∃ d, Digit d c := by
  simp only [IsDigit, Digit, List.mem_iff_getElem?, ← exists_or]

theorem Digit.lt (digit : Digit d c) : d < 16 := by
  obtain lower | upper := digit
  · exact (List.getElem?_eq_some_iff.mp lower).1
  · exact (List.getElem?_eq_some_iff.mp upper).1

theorem IsDigit.ascii (digit : IsDigit c) : c.toNat < 0x80 := by
  have lower : lowerDigits.all (·.toNat < 0x80) = true := by decide
  have upper : upperDigits.all (·.toNat < 0x80) = true := by decide
  obtain among | among := digit
  · exact of_decide_eq_true (List.all_eq_true.mp lower c among)
  · exact of_decide_eq_true (List.all_eq_true.mp upper c among)

theorem Digit.isDigit (digit : Digit d c) : IsDigit c := isDigit_iff.mpr ⟨d, digit⟩

theorem digitValue?_eq_some_iff : digitValue? 16 c = some d ↔ Digit d c := by
  by_cases ascii : c.toNat < 0x80 ∧ d < 16
  · have all : ∀ n < 0x80, ∀ d < 16, digitValue? 16 (Char.ofNat n) = some d ↔ Digit d (Char.ofNat n) := by
      decide +kernel
    have this := all c.toNat ascii.1 d ascii.2
    rwa [Char.ofNat_toNat] at this
  · constructor
    · intro value
      simp only [digitValue?, Option.filter_eq_some_iff, decide_eq_true_eq] at value
      obtain ⟨value, small⟩ := value
      have high : 0x80 ≤ c.toNat := Nat.not_lt.mp fun low => ascii ⟨low, small⟩
      rw [if_neg (by simp; omega), if_neg (by simp; omega), if_neg (by simp; omega)] at value
      contradiction
    · intro digit
      exact absurd ⟨digit.isDigit.ascii, digit.lt⟩ ascii

/-! ### Digits and bytes -/

theorem ofNat_halves (b : UInt8) : UInt8.ofNat (16 * (b.toNat / 16) + b.toNat % 16) = b := by
  rw [Nat.div_add_mod, UInt8.ofNat_toNat]

theorem halves_ofNat {h l : Nat} (high : h < 16) (low : l < 16) :
    (UInt8.ofNat (16 * h + l)).toNat / 16 = h ∧ (UInt8.ofNat (16 * h + l)).toNat % 16 = l := by
  rw [UInt8.toNat_ofNat_of_lt' (show _ < 256 by omega)]
  omega

theorem Spells.length (spells : Spells cs bytes) : cs.length = 2 * bytes.length := by
  induction spells with
  | nil => rfl
  | byte _ _ _ ih => simp only [List.length_cons, ih]; omega

theorem Spells.isDigit (spells : Spells cs bytes) : ∀ c ∈ cs, IsDigit c := by
  induction spells with
  | nil => exact fun c member => absurd member List.not_mem_nil
  | byte high low _ ih =>
    exact List.forall_mem_cons.mpr ⟨high.isDigit, List.forall_mem_cons.mpr ⟨low.isDigit, ih⟩⟩

/-- Any even number of digits is a byte string. -/
theorem exists_spells_iff : (∃ bytes, Spells cs bytes) ↔ (∀ c ∈ cs, IsDigit c) ∧ cs.length % 2 = 0 := by
  constructor
  · rintro ⟨bytes, spells⟩
    exact ⟨spells.isDigit, by rw [spells.length]; omega⟩
  · rintro ⟨digits, even⟩
    induction cs using List.twoStepInduction with
    | nil => exact ⟨[], .nil⟩
    | singleton c => contradiction
    | cons_cons high low rest ih _ =>
      simp only [List.forall_mem_cons] at digits
      obtain ⟨h, isHigh⟩ := isDigit_iff.mp digits.1
      obtain ⟨l, isLow⟩ := isDigit_iff.mp digits.2.1
      obtain ⟨bytes, spells⟩ := ih digits.2.2 (by simp only [List.length_cons] at even; omega)
      obtain ⟨sameHigh, sameLow⟩ := halves_ofNat isHigh.lt isLow.lt
      refine ⟨UInt8.ofNat (16 * h + l) :: bytes, .byte ?_ ?_ spells⟩
      · rwa [sameHigh]
      · rwa [sameLow]

theorem decodeFrom_eq_ok_iff (index : Nat) : decodeFrom index cs = .ok bytes ↔ Spells cs bytes := by
  fun_induction decodeFrom index cs generalizing bytes with
  | case1 =>
    constructor
    · rintro ⟨⟩
      exact .nil
    · rintro ⟨⟩
      rfl
  | case2 => exact ⟨nofun, nofun⟩
  | case3 _ high low rest none =>
    refine ⟨nofun, ?_⟩
    rintro (_ | ⟨isHigh, _, _⟩)
    rw [digitValue?_eq_some_iff.mpr isHigh] at none
    contradiction
  | case4 _ high low rest h _ none =>
    refine ⟨nofun, ?_⟩
    rintro (_ | ⟨_, isLow, _⟩)
    rw [digitValue?_eq_some_iff.mpr isLow] at none
    contradiction
  | case5 index high low rest h isHigh l isLow ih =>
    rw [digitValue?_eq_some_iff] at isHigh isLow
    obtain ⟨sameHigh, sameLow⟩ := halves_ofNat isHigh.lt isLow.lt
    constructor
    · intro read
      cases later : decodeFrom (index + 2) rest with
      | error e => simp [later, Except.map] at read
      | ok bytes =>
        simp only [later, Except.map, Except.ok.injEq] at read
        subst read
        exact .byte (by rwa [sameHigh]) (by rwa [sameLow]) (ih.mp later)
    · rintro (_ | @⟨_, bytes, b, _, _, high', low', spells⟩)
      have sameHigh' := Option.some.inj
        ((digitValue?_eq_some_iff.mpr high').symm.trans (digitValue?_eq_some_iff.mpr isHigh))
      have sameLow' := Option.some.inj
        ((digitValue?_eq_some_iff.mpr low').symm.trans (digitValue?_eq_some_iff.mpr isLow))
      rw [ih.mpr spells, Except.map, ← sameHigh', ← sameLow', ofNat_halves]

/-! ### Texts and their bytes -/

theorem octets_cons (c : Char) (cs : List Char) :
    octets (c :: cs) = (String.utf8EncodeChar c).map (fun b => Char.ofNat b.toNat) ++ octets cs := rfl

theorem octet_ascii (ascii : c.toNat < 0x80) :
    (String.utf8EncodeChar c).map (fun b => Char.ofNat b.toNat) = [c] := by
  have code : c.val.toNat = c.toNat := rfl
  rw [String.utf8EncodeChar]
  simp only [code]
  rw [if_pos (by omega), List.map_singleton, UInt8.toNat_ofNat_of_lt' (show _ < 256 by omega),
    Char.ofNat_toNat]

theorem octets_ascii (ascii : ∀ c ∈ cs, c.toNat < 0x80) : octets cs = cs := by
  induction cs with
  | nil => rfl
  | cons c cs ih =>
    obtain ⟨first, rest⟩ := List.forall_mem_cons.mp ascii
    rw [octets_cons, octet_ascii first, ih rest]
    rfl

theorem toNat_ofNat_byte (b : UInt8) : (Char.ofNat b.toNat).toNat = b.toNat := by
  have small := b.toNat_lt
  rw [Char.ofNat, dif_pos (.inl (by omega))]
  rfl

/-- A byte outside of ASCII is a character outside of ASCII. -/
theorem ascii_of_octets (ascii : ∀ c ∈ octets cs, c.toNat < 0x80) : ∀ c ∈ cs, c.toNat < 0x80 := by
  induction cs with
  | nil => exact ascii
  | cons c cs ih =>
    rw [octets_cons, List.forall_mem_append] at ascii
    refine List.forall_mem_cons.mpr ⟨?_, ih ascii.2⟩
    obtain ⟨b, one, small⟩ | high := Utf8.char_bytes c
    · have size : c.utf8Size = 1 := by
        rw [← String.length_utf8EncodeChar, one]
        rfl
      exact Nat.lt_succ_of_le (Char.utf8Size_eq_one_iff.mp size)
    · obtain ⟨b, tail, encoded, -⟩ := Utf8.next_char c
      have above := high b (encoded ▸ List.mem_cons_self)
      have below := ascii.1 (Char.ofNat b.toNat) (encoded ▸ List.mem_cons_self)
      rw [toNat_ofNat_byte] at below
      omega

/-- A text is read as the bytes that it is two digits each of. -/
theorem decode_eq_ok_iff : decode cs = .ok bytes ↔ Spells cs bytes := by
  constructor
  · intro read
    simp only [decode] at read
    split at read
    · contradiction
    · have spells := (decodeFrom_eq_ok_iff 0).mp read
      have ascii := ascii_of_octets fun c member => (spells.isDigit c member).ascii
      rwa [octets_ascii ascii] at spells
  · intro spells
    have ascii := octets_ascii fun c member => (spells.isDigit c member).ascii
    have even : ¬ cs.length % 2 = 1 := by rw [spells.length]; omega
    simp only [decode, ascii, if_neg even]
    exact (decodeFrom_eq_ok_iff 0).mpr spells

end IPsecControl.Text.Hex
