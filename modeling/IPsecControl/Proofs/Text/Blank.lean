import IPsecControl.Text.Blank
import Mathlib.Data.List.DropRight

/-! Blanks around a text, and the case of its letters. Trimming leaves what stands between the blanks at
the ends, however many there are, and the case of letters makes no difference to it. -/
namespace IPsecControl.Text
variable {before cs core after : List Char}

/-- Nothing but blanks. -/
def Blank (cs : List Char) : Prop := ∀ c ∈ cs, isBlank c = true

/-- What is left of a text without the blanks at its ends. -/
structure Trims (cs core : List Char) : Prop where
  whole : ∃ before after, Blank before ∧ Blank after ∧ cs = before ++ core ++ after
  first : ∀ c ∈ core.head?, isBlank c = false
  last : ∀ c ∈ core.getLast?, isBlank c = false

theorem trimEnd_eq (cs : List Char) : trimEnd cs = cs.rdropWhile isBlank := rfl

theorem trimEnd_append (blank : Blank after) : trimEnd (cs ++ after) = trimEnd cs := by
  rw [trimEnd, trimEnd, List.reverse_append, List.dropWhile_append_of_pos]
  intro c member
  exact blank c (List.mem_reverse.mp member)

theorem trim_around (front : Blank before) (back : Blank after) :
    trim (before ++ cs ++ after) = trim cs := by
  rw [trim, trim, List.append_assoc, List.dropWhile_append_of_pos front, List.dropWhile_append]
  split
  next gone =>
    -- Nothing of the text itself is left, and the blanks behind it go with it.
    rw [List.isEmpty_iff.mp gone, List.dropWhile_eq_nil_iff.mpr back]
  next => exact trimEnd_append back

theorem trim_core (first : ∀ c ∈ core.head?, isBlank c = false)
    (last : ∀ c ∈ core.getLast?, isBlank c = false) : trim core = core := by
  have front : core.dropWhile isBlank = core := by
    cases core with
    | nil => rfl
    | cons c rest => exact List.dropWhile_cons_of_neg (Bool.eq_false_iff.mp (first c rfl))
  rw [trim, front, trimEnd_eq, List.rdropWhile_eq_self_iff]
  intro some blank
  rw [last _ (List.getLast?_eq_some_getLast some)] at blank
  contradiction

theorem trims_trim (cs : List Char) : Trims cs (trim cs) := by
  have front : cs.takeWhile isBlank ++ cs.dropWhile isBlank = cs := List.takeWhile_append_dropWhile
  have back : trim cs ++ (cs.dropWhile isBlank).rtakeWhile isBlank = cs.dropWhile isBlank :=
    List.rdropWhile_append_rtakeWhile
  constructor
  · refine ⟨cs.takeWhile isBlank, (cs.dropWhile isBlank).rtakeWhile isBlank, ?_, ?_, ?_⟩
    · exact fun c => List.mem_takeWhile_imp
    · exact fun c => List.mem_rtakeWhile_imp
    · rw [List.append_assoc, back, front]
  · intro c head
    -- What is trimmed on the right begins as it did before that.
    have begins : (cs.dropWhile isBlank).head? = some c := by
      rw [← back, List.head?_append, Option.mem_def.mp head, Option.some_or]
    have stops := List.head?_dropWhile_not isBlank cs
    rwa [begins] at stops
  · intro c last
    obtain ⟨nonempty, rfl⟩ := List.mem_getLast?_eq_getLast last
    exact Bool.eq_false_iff.mpr (List.rdropWhile_last_not isBlank _ nonempty)

/-- Trimming is the only way to leave out the blanks at the ends. -/
theorem trim_eq_iff : trim cs = core ↔ Trims cs core := by
  constructor
  · rintro rfl
    exact trims_trim cs
  · rintro ⟨⟨before, after, front, back, rfl⟩, first, last⟩
    rw [trim_around front back, trim_core first last]

/-! ### Letter case -/

theorem upper_bounds {c : Char} (upper : ('A' ≤ c && c ≤ 'Z') = true) :
    65 ≤ c.toNat ∧ c.toNat ≤ 90 := by
  rwa [Bool.and_eq_true, decide_eq_true_iff, decide_eq_true_iff] at upper

theorem lower_toNat {n : Nat} (bounds : 65 ≤ n ∧ n ≤ 90) : (Char.ofNat (n + 32)).toNat = n + 32 := by
  have valid : (n + 32).isValidChar := Or.inl (by omega)
  rw [Char.ofNat, dif_pos valid]
  rfl

theorem lowerAscii_eq (c : Char) : lowerAscii c = c.toLower := by
  unfold lowerAscii Char.toLower
  split
  next upper =>
    have bounds := upper_bounds upper
    have within : c.val ≥ 'A'.val ∧ c.val ≤ 'Z'.val := bounds
    rw [dif_pos within]
    apply Char.toNat_inj.mp
    rw [lower_toNat bounds]
    change _ = (c.val + 32).toNat
    rw [UInt32.toNat_add]
    exact (Nat.mod_eq_of_lt (show c.toNat + 32 < 2 ^ 32 by omega)).symm
  next other =>
    rw [dif_neg]
    intro bounds
    apply other
    rwa [Bool.and_eq_true, decide_eq_true_iff, decide_eq_true_iff]

theorem map_lowerAscii (cs : List Char) : cs.map lowerAscii = cs.map Char.toLower :=
  List.map_congr_left fun c _ => lowerAscii_eq c

theorem isBlank_lowerAscii (c : Char) : isBlank (lowerAscii c) = isBlank c := by
  unfold lowerAscii
  split
  next upper =>
    have bounds := upper_bounds upper
    have lower := lower_toNat bounds
    simp only [isBlank, lower]
    grind
  next => rfl

theorem trim_map_lowerAscii (cs : List Char) : trim (cs.map lowerAscii) = (trim cs).map lowerAscii := by
  have same : isBlank ∘ lowerAscii = isBlank := funext isBlank_lowerAscii
  rw [trim, trim, trimEnd, trimEnd, List.dropWhile_map, ← List.map_reverse, List.dropWhile_map,
    List.map_reverse, same]

end IPsecControl.Text
