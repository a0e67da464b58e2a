import IPsecControl.Error.Basic
import Mathlib.Data.List.Forall2

/-! Requirements. What checks its input has a list of requirements, in the order in which it looks at
them: it succeeds exactly if all of them hold, and otherwise fails for the first that does not. -/
namespace IPsecControl

/-- A condition, and the error that says that it does not hold. -/
structure Requirement where
  holds : Prop
  violation : Error

/-- The error says of the first requirement that does not hold that it does not. -/
inductive FirstViolation : List Requirement → Error → Prop where
  | here {r : Requirement} (violated : ¬ r.holds) (rest : List Requirement) :
      FirstViolation (r :: rest) r.violation
  | later {r : Requirement} {rest : List Requirement} {e : Error} (held : r.holds)
      (first : FirstViolation rest e) : FirstViolation (r :: rest) e

/-- The requirements decide whether there is a value, and which error there is otherwise. -/
structure Requires {α : Type} (x : Result α) (rs : List Requirement) : Prop where
  accepts : (∃ a, x = .ok a) ↔ ∀ r ∈ rs, r.holds
  refuses : ∀ e, x = .error e ↔ FirstViolation rs e

theorem Result.ok_of_bind {ε α β : Type} {r : Except ε α} {f : α → Except ε β} {b : β}
    (ok : r >>= f = .ok b) : ∃ a, r = .ok a ∧ f a = .ok b := by
  cases r with
  | error e => cases ok
  | ok a => exact ⟨a, rfl, ok⟩

/-- Values in a row come one by one from the elements in a row. -/
theorem Result.forall₂_of_mapM {α β : Type} {f : α → Result β} {as : List α} {bs : List β}
    (ok : as.mapM f = .ok bs) : List.Forall₂ (fun a b => f a = .ok b) as bs := by
  induction as generalizing bs with
  | nil =>
    cases ok
    exact .nil
  | cons a rest ih =>
    rw [List.mapM_cons] at ok
    obtain ⟨b, first, ok⟩ := ok_of_bind ok
    obtain ⟨later, others, ok⟩ := ok_of_bind ok
    cases ok
    exact .cons first (ih others)

namespace FirstViolation
variable {rs qs : List Requirement} {e e' : Error}

theorem violates (first : FirstViolation rs e) : ∃ r ∈ rs, ¬ r.holds ∧ e = r.violation := by
  induction first with
  | here violated rest => exact ⟨_, List.mem_cons_self, violated, rfl⟩
  | later _ _ ih =>
    obtain ⟨r, member, violated, same⟩ := ih
    exact ⟨r, List.mem_cons_of_mem _ member, violated, same⟩

theorem not_all (first : FirstViolation rs e) : ¬ ∀ r ∈ rs, r.holds := by
  obtain ⟨r, member, violated, -⟩ := first.violates
  exact fun all => violated (all r member)

theorem unique (first : FirstViolation rs e) (other : FirstViolation rs e') : e = e' := by
  induction first with
  | here violated rest =>
    cases other with
    | here => rfl
    | later held => contradiction
  | later held first ih =>
    cases other with
    | here violated => contradiction
    | later _ other => exact ih other

theorem append_left (first : FirstViolation rs e) (qs : List Requirement) :
    FirstViolation (rs ++ qs) e := by
  induction first with
  | here violated rest => exact .here violated (rest ++ qs)
  | later held _ ih => exact .later held ih

theorem append_right (held : ∀ r ∈ rs, r.holds) (first : FirstViolation qs e) :
    FirstViolation (rs ++ qs) e := by
  induction rs with
  | nil => exact first
  | cons r rest ih =>
    obtain ⟨here, later⟩ := List.forall_mem_cons.mp held
    exact .later here (ih later)

end FirstViolation

namespace Requires
variable {α β : Type} {x : Result α} {f : α → Result β} {rs qs : List Requirement}

/-- The requirements cannot all hold and be violated, so that one direction is enough. -/
theorem intro (accepted : ∀ a, x = .ok a → ∀ r ∈ rs, r.holds)
    (refused : ∀ e, x = .error e → FirstViolation rs e) : Requires x rs := by
  cases x with
  | error e =>
    have first := refused e rfl
    constructor
    · constructor
      · rintro ⟨a, ⟨⟩⟩
      · intro all
        exact absurd all first.not_all
    · intro e'
      constructor
      · rintro ⟨⟩
        exact first
      · intro other
        rw [first.unique other]
  | ok a =>
    have all := accepted a rfl
    constructor
    · exact ⟨fun _ => all, fun _ => ⟨a, rfl⟩⟩
    · intro e
      constructor
      · rintro ⟨⟩
      · intro first
        exact absurd all first.not_all

theorem ok (a : α) : Requires (.ok a) [] := by
  apply intro
  · intro _ _ r member
    cases member
  · rintro e ⟨⟩

theorem bind (first : Requires x rs) (next : ∀ a, x = .ok a → Requires (f a) qs) :
    Requires (x >>= f) (rs ++ qs) := by
  cases x with
  | error e =>
    apply intro
    · rintro b ⟨⟩
    · rintro _ ⟨⟩
      exact ((first.refuses e).mp rfl).append_left qs
  | ok a =>
    have held := first.accepts.mp ⟨a, rfl⟩
    have later := next a rfl
    apply intro
    · intro b accepted
      exact List.forall_mem_append.mpr ⟨held, later.accepts.mp ⟨b, accepted⟩⟩
    · intro e refused
      exact .append_right held ((later.refuses e).mp refused)

/-- What is made of the value requires nothing. -/
theorem map (requires : Requires x rs) (g : α → β) : Requires (x.map g) rs := by
  have bound := requires.bind (f := fun a => .ok (g a)) fun a _ => .ok (g a)
  rwa [List.append_nil] at bound

theorem met {q : Prop} {e : Error} (held : q) (rest : Requires x rs) : Requires x (⟨q, e⟩ :: rs) := by
  apply intro
  · intro a accepted
    exact List.forall_mem_cons.mpr ⟨held, rest.accepts.mp ⟨a, accepted⟩⟩
  · intro e' refused
    exact .later held ((rest.refuses e').mp refused)

theorem broken {q : Prop} {e : Error} (violated : ¬ q) (rs : List Requirement) :
    Requires (.error e : Result α) (⟨q, e⟩ :: rs) := by
  apply intro
  · rintro a ⟨⟩
  · rintro _ ⟨⟩
    exact .here violated rs

/-- A check in front of the rest. The rest may take for granted what was checked. -/
theorem check {p q : Prop} [Decidable p] {e : Error} (negated : q ↔ ¬ p)
    (rest : ¬ p → Requires x rs) : Requires (if p then .error e else x) (⟨q, e⟩ :: rs) := by
  split
  next violated => exact broken (fun held => negated.mp held violated) rs
  next holds => exact met (negated.mpr holds) (rest holds)

theorem option_mapM {requirements : α → List Requirement}
    (requires : ∀ a, Requires (f a) (requirements a)) (a? : Option α) :
    Requires (a?.mapM f) (a?.toList.flatMap requirements) := by
  cases a? with
  | none => exact ok none
  | some a =>
    rw [Option.toList_some, List.flatMap_singleton]
    exact (requires a).map some

/-- Elements in a row require what each requires, from the left. -/
theorem list_mapM {requirements : α → List Requirement}
    (requires : ∀ a, Requires (f a) (requirements a)) (as : List α) :
    Requires (as.mapM f) (as.flatMap requirements) := by
  induction as with
  | nil => exact ok []
  | cons a rest ih =>
    rw [List.mapM_cons, List.flatMap_cons]
    exact (requires a).bind fun b _ => ih.map (b :: ·)

end Requires
end IPsecControl
