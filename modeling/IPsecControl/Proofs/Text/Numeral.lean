import IPsecControl.Text.Decimal
import Mathlib.Algebra.Group.Nat.Defs

/-! Numerals. A numeral is a digit, or a shorter numeral of a number that is not zero with a digit behind
it; from this, by induction, it has the value of its number, no more digits than it needs, and a zero in
front for zero only. -/
namespace IPsecControl.Text
variable {b n : Nat}

theorem digitsOnto_small (small : n < b + 2) (tail : List Char) :
    digitsOnto b n tail = digitChar n :: tail := by
  rw [digitsOnto, dif_pos small]

theorem digitsOnto_large (large : ¬ n < b + 2) (tail : List Char) :
    digitsOnto b n tail = digitsOnto b (n / (b + 2)) (digitChar (n % (b + 2)) :: tail) := by
  rw [digitsOnto, dif_neg large]

theorem digitsOnto_append (n : Nat) (tail : List Char) :
    digitsOnto b n tail = digitsOnto b n [] ++ tail := by
  induction n using Nat.strongRecOn generalizing tail with
  | ind n ih =>
    by_cases small : n < b + 2
    · rw [digitsOnto_small small, digitsOnto_small small]
      rfl
    · have less : n / (b + 2) < n := Nat.div_lt_self (by omega) (by omega)
      rw [digitsOnto_large small, digitsOnto_large small, ih _ less, ih _ less [_], List.append_assoc]
      rfl

theorem digitsOnto_ne_nil (n : Nat) : digitsOnto b n [] ≠ [] := by
  by_cases small : n < b + 2
  · rw [digitsOnto_small small]
    exact List.cons_ne_nil _ _
  · rw [digitsOnto_large small, digitsOnto_append]
    exact List.append_ne_nil_of_right_ne_nil _ (List.cons_ne_nil _ _)

/-- Numerals grow by a digit at their end. -/
theorem numeral_induction {motive : Nat → List Char → Prop}
    (one : ∀ d < b + 2, motive d [digitChar d])
    (more : ∀ n ds d, 0 < n → ds ≠ [] → d < b + 2 → motive n ds →
      motive (n * (b + 2) + d) (ds ++ [digitChar d])) (n : Nat) : motive n (digitsOnto b n []) := by
  induction n using Nat.strongRecOn with
  | ind n ih =>
    by_cases small : n < b + 2
    · rw [digitsOnto_small small]
      exact one n small
    · have less : n / (b + 2) < n := Nat.div_lt_self (by omega) (by omega)
      have some : 0 < n / (b + 2) := Nat.div_pos (by omega) (by omega)
      have digit : n % (b + 2) < b + 2 := Nat.mod_lt _ (by omega)
      have grown := more _ _ _ some (digitsOnto_ne_nil _) digit (ih _ less)
      rw [Nat.div_add_mod' n (b + 2)] at grown
      rwa [digitsOnto_large small, digitsOnto_append]

theorem digitsOnto_length_le {places : Nat} (positive : 0 < places) (fits : n < (b + 2) ^ places) :
    (digitsOnto b n []).length ≤ places := by
  induction n using numeral_induction (b := b) generalizing places with
  | one d _ => exact positive
  | more n ds d some _ _ ih =>
    obtain ⟨places, rfl⟩ := Nat.exists_eq_succ_of_ne_zero (Nat.ne_of_gt positive)
    have shorter : n < (b + 2) ^ places := by
      rw [Nat.pow_succ] at fits
      exact Nat.lt_of_mul_lt_mul_right (Nat.lt_of_le_of_lt (Nat.le_add_right _ d) fits)
    have positive : 0 < places := by
      cases places with
      | zero => simp at shorter; omega
      | succ places => exact Nat.succ_pos places
    rw [List.length_append]
    exact Nat.succ_le_succ (ih positive shorter)

/-! ### Digits of bases that letters reach -/

theorem digitValue?_digitChar (lettered : b + 2 ≤ 36) {d : Nat} (small : d < b + 2) :
    digitValue? (b + 2) (digitChar d) = some d := by
  have all : ∀ d < 36, digitValue? 36 (digitChar d) = some d := by decide
  have shown := all d (Nat.lt_of_lt_of_le small lettered)
  simp only [digitValue?, Option.filter_eq_some_iff] at shown ⊢
  exact ⟨shown.1, decide_eq_true small⟩

theorem digitChar_eq_zero {d : Nat} (small : d < 36) (zero : digitChar d = '0') : d = 0 := by
  have all : ∀ d < 36, digitChar d = '0' → d = 0 := by decide
  exact all d small zero

theorem digitsOnto_digits (lettered : b + 2 ≤ 36) (n : Nat) :
    ∀ c ∈ digitsOnto b n [], (digitValue? (b + 2) c).isSome = true := by
  have digit {d : Nat} (small : d < b + 2) : (digitValue? (b + 2) (digitChar d)).isSome = true := by
    rw [digitValue?_digitChar lettered small]
    rfl
  induction n using numeral_induction (b := b) with
  | one d small => exact List.forall_mem_singleton.mpr (digit small)
  | more n ds d _ _ small ih =>
    exact List.forall_mem_append.mpr ⟨ih, List.forall_mem_singleton.mpr (digit small)⟩

/-- The value of a numeral, read digit by digit. -/
theorem digitsOnto_value (lettered : b + 2 ≤ 36) (n : Nat) :
    (digitsOnto b n []).foldl (fun n c => n * (b + 2) + (digitValue? (b + 2) c).getD 0) 0 = n := by
  induction n using numeral_induction (b := b) with
  | one d small => simp [digitValue?_digitChar lettered small]
  | more n ds d _ _ small ih => simp [ih, digitValue?_digitChar lettered small]

/-- No numeral but that of zero has a zero in front. -/
theorem digitsOnto_head (lettered : b + 2 ≤ 36) (zero : (digitsOnto b n []).head? = some '0') :
    n = 0 := by
  induction n using numeral_induction (b := b) with
  | one d small =>
    exact digitChar_eq_zero (Nat.lt_of_lt_of_le small lettered) (Option.some.inj zero)
  | more n ds d some front small ih =>
    cases ds with
    | nil => exact absurd rfl front
    | cons c ds => exact absurd (ih zero) (Nat.ne_of_gt some)

end IPsecControl.Text
