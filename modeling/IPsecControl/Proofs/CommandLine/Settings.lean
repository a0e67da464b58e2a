import IPsecControl.Proofs.CommandLine.Given
import IPsecControl.Proofs.Text.Split

/-! Settings that come out of accepted arguments: the values of an option are what the arguments give to it, each
text read, and only lists of names are given twice. -/
namespace IPsecControl.CommandLine
open Text
variable {o p : Opt} {text : String} {log : List (Opt × String)} {args : List String}

/-- Each value is a text of the kind, read. -/
def Kind.Reads (k : Kind) (given : List String) (values : List k.Value) : Prop :=
  List.Forall₂ (fun text value => k.read text = .ok value) given values

/-- A setting is the text of an option, read. -/
structure Setting.Holds (entry : Opt × String) (setting : Setting) : Prop where
  opt : setting.opt = entry.1
  reads : setting.opt.kind.read entry.2 = .ok setting.value

namespace Settings
variable {s after : Settings}

/-- Only an option for lists of names has several values. -/
def Once (s : Settings) : Prop := ∀ o, o.kind ≠ .names → (s.values o).length ≤ 1

theorem values_append (s added : Settings) (o : Opt) : (s ++ added).values o = s.values o ++ added.values o := by
  induction s with
  | nil => rfl
  | cons setting rest ih =>
    rw [List.cons_append, values, values]
    split
    next => rw [ih, List.cons_append]
    next => exact ih

theorem isSet_iff : s.isSet o = true ↔ s.values o ≠ [] := by
  induction s with
  | nil => simp [isSet, values]
  | cons setting rest ih =>
    rw [values, isSet, List.any_cons, Bool.or_eq_true, decide_eq_true_iff]
    split
    next same => simp [same]
    next other =>
      rw [← ih]
      exact or_iff_right other

theorem isSet_of_mem {setting : Setting} (member : setting ∈ s) : s.isSet setting.opt = true := by
  exact List.any_eq_true.mpr ⟨setting, member, decide_eq_true rfl⟩

/-! ### Giving options -/

theorem put_ok (done : s.put o text = .ok after) :
    (o.kind ≠ .names → s.values o = []) ∧ ∃ value, o.kind.read text = .ok value ∧ after = s ++ [⟨o, value⟩] := by
  unfold put at done
  split at done
  next => contradiction
  next allowed =>
    constructor
    · intro kind
      by_contra given
      exact allowed ⟨kind, isSet_iff.mpr given⟩
    · split at done
      next value read =>
        cases done
        exact ⟨value, read, rfl⟩
      next => contradiction
      next => contradiction

theorem put_once (done : s.put o text = .ok after) (once : s.Once) : after.Once := by
  obtain ⟨absent, value, -, rfl⟩ := put_ok done
  intro p kind
  rw [values_append, List.length_append]
  by_cases same : o = p
  · obtain rfl := same
    rw [absent kind, values, dif_pos rfl]
    exact Nat.le_refl 1
  · rw [values, dif_neg same]
    exact once p kind

theorem putAll_cons (entry : Opt × String) :
    s.putAll (entry :: log) = s.put entry.1 entry.2 >>= (putAll · log) := List.foldlM_cons

theorem putAll_once (done : s.putAll log = .ok after) (once : s.Once) : after.Once := by
  induction log generalizing s with
  | nil =>
    cases done
    exact once
  | cons entry log ih =>
    rw [putAll_cons] at done
    obtain ⟨next, put, done⟩ := Result.ok_of_bind done
    exact ih done (put_once put once)

theorem putAll_ok (done : s.putAll log = .ok after) :
    ∃ added, after = s ++ added ∧ List.Forall₂ Setting.Holds log added := by
  induction log generalizing s with
  | nil =>
    cases done
    exact ⟨[], (List.append_nil _).symm, .nil⟩
  | cons entry log ih =>
    rw [putAll_cons] at done
    obtain ⟨next, put, done⟩ := Result.ok_of_bind done
    obtain ⟨-, value, read, rfl⟩ := put_ok put
    obtain ⟨added, rfl, holds⟩ := ih done
    exact ⟨⟨entry.1, value⟩ :: added, List.append_assoc _ _ added, .cons ⟨rfl, read⟩ holds⟩

/-- The values of an option are its texts, read. -/
theorem values_of_holds (holds : List.Forall₂ Setting.Holds log s) :
    o.kind.Reads (texts o log) (s.values o) := by
  induction holds with
  | nil => exact .nil
  | @cons entry setting log rest first others ih =>
    obtain ⟨p, text⟩ := entry
    obtain ⟨q, value⟩ := setting
    obtain ⟨same, reads⟩ := first
    obtain rfl : q = p := same
    rw [values]
    by_cases same : q = o
    · obtain rfl := same
      rw [texts_cons_same, dif_pos rfl]
      exact .cons reads ih
    · rw [texts_cons_other same, dif_neg same]
      exact ih

theorem isSet_of_holds (holds : List.Forall₂ Setting.Holds log s) {entry : Opt × String} (among : entry ∈ log) :
    s.isSet entry.1 = true := by
  induction holds with
  | nil => contradiction
  | cons first others ih =>
    obtain rfl | among := List.mem_cons.mp among
    · exact first.opt ▸ isSet_of_mem List.mem_cons_self
    · rw [isSet, List.any_cons, Bool.or_eq_true]
      exact .inr (ih among)

/-! ### Clashes -/

theorem mem_opts : o ∈ s.opts ↔ s.isSet o = true := by
  simp [opts, isSet]

/-- No two options clash in settings that were let through. -/
theorem compatible_of_clash? (through : s.clash? = none) (first : s.isSet o = true) (second : s.isSet p = true) :
    o.clashes p = false := by
  have none := List.findSome?_eq_none_iff.mp through o (mem_opts.mpr first)
  split at none
  next empty => exact Bool.eq_false_iff.mpr (List.filter_eq_nil_iff.mp empty p (mem_opts.mpr second))
  next => contradiction

end Settings

/-! ### Values of a kind -/

namespace Kind
variable {given : List String}

theorem Reads.map_eq {k : Kind} {values : List k.Value} {f : String → k.Value} (reads : k.Reads given values)
    (only : ∀ text value, k.read text = .ok value → f text = value) : given.map f = values := by
  rw [← List.forall₂_eq_eq_eq, List.forall₂_map_left_iff]
  exact reads.imp only

theorem text_values {values : List String} (reads : Kind.text.Reads given values) : values = given := by
  rw [← reads.map_eq (f := id), List.map_id]
  rintro text value ⟨⟩
  rfl

theorem path_values {values : List String} (reads : Kind.path.Reads given values) : values = given := by
  rw [← reads.map_eq (f := id), List.map_id]
  intro text value read
  have read : (if text = "" then .error Refusal.empty else .ok text) = Except.ok value := read
  split at read
  · contradiction
  · cases read
    rfl

/-- The names in a text with commas between them. -/
def listed (text : String) : List String := (text.toList.splitOn ',').map String.ofList

theorem names_values {values : List (List String)} (reads : Kind.names.Reads given values) :
    values = given.map listed := by
  symm
  apply reads.map_eq
  rintro text value ⟨⟩
  rw [listed, split_eq]

end Kind

/-! ### Settings and arguments -/

/-- The settings of a command are what the arguments give to its own options, and no two of them clash. -/
structure Settings.Tell (s : Settings) (args : List String) : Prop where
  reads : ∀ o ∉ Level.top.options, o.kind ≠ .flag → o.kind.Reads (given o args) (s.values o)
  isSet : ∀ o ∉ Level.top.options, ∀ text ∈ args, Names o text → s.isSet o = true
  once : s.Once
  compatible : ∀ o p, s.isSet o = true → s.isSet p = true → o.clashes p = false

theorem readInside_spells {verb : Verb} {s : Settings} (done : readInside verb args = .ok s) :
    ∃ log, Spells (.inside verb) none args log ∧ Settings.putAll [] log = .ok s ∧ s.clash? = none := by
  obtain ⟨⟨r, out⟩, done, through⟩ := Result.ok_of_bind done
  obtain ⟨settings, settled, ended⟩ := Result.ok_of_bind through
  obtain ⟨start, front, log, ⟨⟩, rfl, spells, put⟩ := read_spells done settled
  obtain rfl := read_inside done
  rw [unread, List.append_nil]
  cases clash : settings.clash? with
  | some failure =>
    rw [clash] at ended
    contradiction
  | none =>
    rw [clash] at ended
    cases ended
    exact ⟨log, spells, put, clash⟩

/-- Options that can only stand behind a command have no letter. -/
theorem letter?_of_not_top (foreign : o ∉ Level.top.options) : o.letter? = none := by
  cases o <;> first | rfl | exact absurd (by decide) foreign

theorem verb_names_nothing (verb : Verb) : ¬ Names o verb.name := by
  intro names
  obtain ⟨value, long⟩ := names.form
  have plain : Argument.ofText verb.name = .plain verb.name := by
    cases verb <;> decide +kernel
  exact absurd (plain.symm.trans long) nofun

theorem unread_given {front rest : List String} {verb : Verb} {above : List (Opt × String)}
    (before : Spells .top none front above) (foreign : o ∉ Level.top.options) :
    given o (front ++ unread (some (verb, rest))) = given o rest := by
  rw [given_append (before.foreign foreign), unread, given_other (verb_names_nothing verb)]

/-- Settings that came out of the arguments behind a command tell all arguments. -/
theorem Settings.tell_of_spells {s : Settings} {front rest : List String} {verb : Verb}
    {above behind : List (Opt × String)} (before : Spells .top none front above)
    (after : Spells (.inside verb) none rest behind) (put : Settings.putAll [] behind = .ok s)
    (through : s.clash? = none) : s.Tell (front ++ unread (some (verb, rest))) := by
  obtain ⟨_, rfl, holds⟩ := putAll_ok put
  constructor
  · intro o foreign kind
    have exactly := after.given_eq kind (letter?_of_not_top foreign)
    rw [if_neg nofun, List.nil_append] at exactly
    rw [unread_given before foreign, exactly]
    exact values_of_holds holds
  · intro o foreign text among names
    obtain among | among := List.mem_append.mp among
    · exact absurd names (before.foreign foreign text among)
    · obtain rfl | among := List.mem_cons.mp among
      · exact absurd names (verb_names_nothing verb)
      · obtain ⟨entry, logged, rfl⟩ := after.names among names
        exact isSet_of_holds holds logged
  · exact putAll_once put fun o kind => Nat.zero_le 1
  · intro o p
    exact compatible_of_clash? through

/-- Accepted arguments make a command of settings that tell them. -/
theorem Invocation.parse_tells {i : Invocation} (accepted : Invocation.parse args = .ok i) :
    ∃ verb s, Settings.command s verb = .ok i.command ∧ s.Tell args := by
  obtain ⟨⟨r, command?⟩, done, accepted⟩ := Result.ok_of_bind accepted
  cases command? with
  | none =>
    obtain ⟨outside, -, accepted⟩ := Result.ok_of_bind accepted
    contradiction
  | some found =>
    obtain ⟨verb, rest⟩ := found
    obtain ⟨s, inside, accepted⟩ := Result.ok_of_bind accepted
    obtain ⟨command, made, accepted⟩ := Result.ok_of_bind accepted
    obtain ⟨outside, settled, accepted⟩ := Result.ok_of_bind accepted
    cases accepted
    obtain ⟨start, front, above, -, rfl, before, -⟩ := read_spells done settled
    obtain ⟨log, behind, put, through⟩ := readInside_spells inside
    exact ⟨verb, s, made, Settings.tell_of_spells before behind put through⟩

end IPsecControl.CommandLine
