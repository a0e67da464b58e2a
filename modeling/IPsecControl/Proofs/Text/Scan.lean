import IPsecControl.Text.Decimal
import IPsecControl.Text.Scan
import Mathlib.Data.List.TakeWhile

/-! Reading from the front of a text, and searching it. A search passes over a text that nothing read
begins in; what is read on one line of the text lies in front of the next line break. -/
namespace IPsecControl.Text
variable {α : Type} {p : Char → Bool} {read : List Char → Option α}

theorem literal?_common (front expected cs : List Char) :
    literal? (front ++ expected) (front ++ cs) = literal? expected cs := by
  induction front with
  | nil => rfl
  | cons c front ih => rw [List.cons_append, List.cons_append, literal?, if_pos rfl, ih]

theorem literal?_append (expected rest : List Char) :
    literal? expected (expected ++ rest) = some rest := by
  have same := literal?_common expected [] rest
  rwa [List.append_nil] at same

theorem eq_append_of_literal? {expected cs rest : List Char} (found : literal? expected cs = some rest) :
    cs = expected ++ rest := by
  induction expected generalizing cs with
  | nil => exact Option.some.inj found
  | cons c expected ih =>
    cases cs with
    | nil => contradiction
    | cons d cs =>
      rw [literal?, Option.ite_none_right_eq_some] at found
      obtain ⟨rfl, found⟩ := found
      rw [List.cons_append, ih found]

theorem literal?_eq_none {c : Char} {expected cs : List Char} (apart : cs.head? ≠ some c) :
    literal? (c :: expected) cs = none := by
  cases cs with
  | nil => rfl
  | cons d cs => exact if_neg fun same => apart (congrArg some same.symm)

theorem skipping_append (expected rest : List Char) : skipping expected (expected ++ rest) = rest := by
  rw [skipping, literal?_append, Option.getD_some]

theorem skipping_apart {c : Char} {expected cs : List Char} (apart : cs.head? ≠ some c) :
    skipping (c :: expected) cs = cs := by
  rw [skipping, literal?_eq_none apart, Option.getD_none]

theorem takeWhile_append {γ : Type} {p : γ → Bool} {front rest : List γ} (within : ∀ c ∈ front, p c = true)
    (stops : ∀ c ∈ rest.head?, p c = false) :
    (front ++ rest).takeWhile p = front ∧ (front ++ rest).dropWhile p = rest := by
  rw [List.takeWhile_append_of_pos within, List.dropWhile_append_of_pos within]
  cases rest with
  | nil => exact ⟨List.append_nil front, rfl⟩
  | cons c rest =>
    have stop : ¬ p c = true := Bool.eq_false_iff.mp (stops c rfl)
    rw [List.takeWhile_cons_of_neg stop, List.dropWhile_cons_of_neg stop, List.append_nil]
    exact ⟨rfl, rfl⟩

theorem drop_takeWhile {γ : Type} (p : γ → Bool) (cs : List γ) :
    cs.drop (cs.takeWhile p).length = cs.dropWhile p := by
  have whole := List.prefix_iff_eq_append.mp (List.takeWhile_prefix p (l := cs))
  exact List.append_cancel_left (whole.trans List.takeWhile_append_dropWhile.symm)

theorem head_stops {c : Char} (stop : p c = false) (rest : List Char) :
    ∀ d ∈ (c :: rest).head?, p d = false :=
  fun _ same => Option.some.inj same ▸ stop

/-- A run ends where its class does. -/
theorem run?_append {front rest : List Char} (nonempty : front ≠ []) (within : ∀ c ∈ front, p c = true)
    (stops : ∀ c ∈ rest.head?, p c = false) : run? p (front ++ rest) = some (front, rest) := by
  obtain ⟨taken, left⟩ := takeWhile_append within stops
  obtain ⟨c, front, rfl⟩ := List.exists_cons_of_ne_nil nonempty
  rw [run?, taken, left]

theorem of_run? {cs front rest : List Char} (found : run? p cs = some (front, rest)) :
    cs = front ++ rest ∧ ∀ c ∈ front, p c = true := by
  have whole := List.takeWhile_append_dropWhile (p := p) (l := cs)
  have within : ∀ c ∈ cs.takeWhile p, p c = true := fun c => List.mem_takeWhile_imp
  rw [run?] at found
  split at found
  next => contradiction
  next taken _ =>
    obtain ⟨rfl, rfl⟩ := Prod.mk.inj (Option.some.inj found)
    exact ⟨whole.symm, within⟩

/-! ### Searching -/

theorem firstMatch?_here {cs : List Char} {a : α} (found : read cs = some a) :
    firstMatch? read cs = some a := by
  cases cs with
  | nil => exact found
  | cons c cs => rw [firstMatch?, found, Option.some_or]

theorem firstMatch?_append {front cs : List Char}
    (fails : ∀ s, s ≠ [] → s <:+ front → read (s ++ cs) = none) :
    firstMatch? read (front ++ cs) = firstMatch? read cs := by
  induction front with
  | nil => rfl
  | cons c front ih =>
    rw [List.cons_append, firstMatch?, ← List.cons_append, fails _ (List.cons_ne_nil c front)
      List.suffix_rfl, Option.none_or]
    exact ih fun s some suffix => fails s some (suffix.trans (List.suffix_cons c front))

theorem firstMatch?_eq_none {cs : List Char} (fails : ∀ s, s <:+ cs → read s = none) :
    firstMatch? read cs = none := by
  have passed : firstMatch? read (cs ++ []) = firstMatch? read [] :=
    firstMatch?_append fun s _ suffix => by
      rw [List.append_nil]
      exact fails s suffix
  rw [List.append_nil] at passed
  exact passed.trans (fails [] (List.nil_suffix))

theorem literal?_isSome_iff {needle cs : List Char} : (literal? needle cs).isSome = true ↔ needle <+: cs := by
  constructor
  · intro found
    obtain ⟨rest, found⟩ := Option.isSome_iff_exists.mp found
    exact ⟨rest, (eq_append_of_literal? found).symm⟩
  · rintro ⟨rest, rfl⟩
    rw [literal?_append]
    rfl

/-- Searching for a text tells whether it occurs. -/
theorem firstMatch?_literal_iff {needle cs : List Char} :
    (firstMatch? (literal? needle) cs).isSome = true ↔ needle <:+: cs := by
  induction cs with
  | nil => rw [firstMatch?, literal?_isSome_iff, List.prefix_nil, List.infix_nil]
  | cons c cs ih =>
    rw [firstMatch?, Option.isSome_or, Bool.or_eq_true, literal?_isSome_iff, ih, List.infix_cons_iff]

/-- Whatever is read begins with a piece of one line in which the needle occurs. -/
def Announces (needle : List Char) (read : List Char → Option α) : Prop :=
  ∀ cs a, read cs = some a → ∃ piece, piece <+: cs ∧ needle <:+: piece ∧ '\n' ∉ piece

section
variable {needle before : List Char} (announces : Announces needle read) (absent : ¬ needle <:+: before)
include announces absent

/-- Nothing is found in a text without the needle. -/
theorem Announces.none_of_absent : firstMatch? read before = none := by
  refine firstMatch?_eq_none fun s suffix => ?_
  cases found : read s with
  | none => rfl
  | some a =>
    obtain ⟨piece, front, occurs, -⟩ := announces s a found
    exact absurd (occurs.trans (front.isInfix.trans suffix.isInfix)) absent

/-- Lines without the needle are passed over. -/
theorem Announces.pass (ended : ∀ c ∈ before.getLast?, c = '\n') (cs : List Char) :
    firstMatch? read (before ++ cs) = firstMatch? read cs := by
  refine firstMatch?_append fun s nonempty suffix => ?_
  cases found : read (s ++ cs) with
  | none => rfl
  | some a =>
    obtain ⟨piece, front, occurs, single⟩ := announces _ a found
    obtain inside | crossing := List.prefix_or_prefix_of_prefix front (List.prefix_append s cs)
    · exact absurd (occurs.trans (inside.isInfix.trans suffix.isInfix)) absent
    · have last : s.getLast nonempty = '\n' :=
        ended _ (suffix.getLast nonempty ▸ List.getLast?_eq_some_getLast (suffix.ne_nil nonempty))
      exact absurd (crossing.subset (last ▸ List.getLast_mem nonempty)) single

end
end IPsecControl.Text
