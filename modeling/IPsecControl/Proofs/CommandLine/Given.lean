import IPsecControl.Proofs.CommandLine.Arguments

/-! What arguments give to an option, seen on the arguments alone: what stands behind the equals sign of an argument
that names it, or in the next argument. The settings hold just that. -/
namespace IPsecControl.CommandLine
open Text
variable {level : Level} {awaited : Option Opt} {args : List String} {log : List (Opt × String)} {o p : Opt}
  {text : String}

/-! ### Names of options -/

namespace Opt

def all : List Opt := [
  .help, .version, .addr, .tls, .timeout, .logLevel, .src, .dst, .spi, .proto, .ifId, .reqid, .mode, .interface,
  .encAlg, .encKey, .intAlg, .intKey, .replayWindow, .tfc, .encap, .esn, .copyDf, .copyEcn, .copyDscp, .initiator,
  .inbound, .update, .conn, .child, .localAddr, .remoteAddr, .localId, .remoteId, .auth, .proposal, .integ, .dh,
  .localTs, .remoteTs, .pingAddr, .certType, .connFile, .cleanupTimeout, .advisoryIntrospection]

theorem mem_all (o : Opt) : o ∈ all := by
  cases o <;> decide

theorem name_injective : Function.Injective name := by
  have distinct : (all.map name).Nodup := by decide +kernel
  intro a b same
  exact List.inj_on_of_nodup_map distinct a.mem_all b.mem_all same

/-- A name can be told from what follows it. -/
theorem name_plain (o : Opt) : o.name ≠ "" ∧ '=' ∉ o.name.toList := by
  have each : ∀ o ∈ all, o.name ≠ "" ∧ '=' ∉ o.name.toList := by decide +kernel
  exact each o o.mem_all

end Opt

namespace Level

theorem of_named? {name : String} (named : level.named? name = some o) : o ∈ level.options ∧ o.name = name := by
  unfold named? at named
  have same := List.find?_some named
  exact ⟨List.mem_of_find?_eq_some named, of_decide_eq_true same⟩

theorem of_lettered? {c : Char} (lettered : level.lettered? c = some o) :
    o ∈ level.options ∧ o.letter? = some c := by
  unfold lettered? at lettered
  have same := List.find?_some lettered
  exact ⟨List.mem_of_find?_eq_some lettered, of_decide_eq_true same⟩

end Level

/-! ### Arguments -/

/-- An argument that names an option, alone or with a value behind an equals sign. -/
def Names (o : Opt) (text : String) : Prop := ∃ value, text = spelled o.name value

theorem Names.form (names : Names o text) : ∃ value, Argument.ofText text = .long o.name value := by
  obtain ⟨value, rfl⟩ := names
  exact ⟨value, ofText_spelled o.name_plain.1 o.name_plain.2 value⟩

/-- What stands behind the name of an option and an equals sign. -/
def attachedTo? (o : Opt) (text : String) : Option String :=
  (literal? ("--" ++ o.name ++ "=").toList text.toList).map String.ofList

/-- The texts that arguments give to an option, in order. -/
def given (o : Opt) : List String → List String
  | [] => []
  | text :: rest =>
    (if text = "--" ++ o.name then rest.take 1 else (attachedTo? o text).toList) ++ given o rest

theorem attachedTo?_eq_some_iff {value : String} :
    attachedTo? o text = some value ↔ text = spelled o.name (some value) := by
  rw [attachedTo?, Option.map_eq_some_iff, spelled]
  constructor
  · rintro ⟨rest, found, rfl⟩
    rw [← String.toList_inj, String.toList_append, String.toList_ofList]
    exact eq_append_of_literal? found
  · rintro rfl
    have whole : ("--" ++ o.name ++ "=" ++ value).toList = ("--" ++ o.name ++ "=").toList ++ value.toList :=
      String.toList_append
    exact ⟨value.toList, whole ▸ literal?_append _ _, String.ofList_toList⟩

theorem names_iff : Names o text ↔ text = "--" ++ o.name ∨ (attachedTo? o text).isSome = true := by
  rw [Option.isSome_iff_exists]
  constructor
  · rintro ⟨_ | value, rfl⟩
    · exact .inl rfl
    · exact .inr ⟨value, attachedTo?_eq_some_iff.mpr rfl⟩
  · rintro (alone | ⟨value, attached⟩)
    · exact ⟨none, alone⟩
    · exact ⟨some value, attachedTo?_eq_some_iff.mp attached⟩

instance (o : Opt) (text : String) : Decidable (Names o text) := decidable_of_iff _ names_iff.symm

theorem given_other (other : ¬ Names o text) : given o (text :: args) = given o args := by
  rw [names_iff, not_or] at other
  obtain ⟨alone, attached⟩ := other
  rw [given, if_neg alone, Option.not_isSome_iff_eq_none.mp attached]
  rfl

theorem given_alone : given o (spelled o.name none :: args) = args.take 1 ++ given o args := by
  rw [given]
  exact congrArg (· ++ given o args) (if_pos rfl)

theorem given_attached (value : String) : given o (spelled o.name (some value) :: args) = value :: given o args := by
  have more : spelled o.name (some value) ≠ "--" ++ o.name := by
    intro same
    have forms := congrArg Argument.ofText same
    rw [ofText_spelled o.name_plain.1 o.name_plain.2 (some value)] at forms
    exact absurd (forms.trans (ofText_spelled o.name_plain.1 o.name_plain.2 none)) nofun
  rw [given, if_neg more, attachedTo?_eq_some_iff.mpr rfl]
  rfl

theorem given_append {front : List String} (others : ∀ text ∈ front, ¬ Names o text) :
    given o (front ++ args) = given o args := by
  induction front with
  | nil => rfl
  | cons text front ih =>
    obtain ⟨other, others⟩ := List.forall_mem_cons.mp others
    rw [List.cons_append, given_other other, ih others]

/-- The texts of an option in a row of options and texts. -/
def texts (o : Opt) (log : List (Opt × String)) : List String :=
  log.filterMap fun (p, text) => if p = o then some text else none

theorem Mentions.opt {value : Option String} (mentions : Mentions level text p value) (names : Names o text) :
    p = o := by
  obtain ⟨other, form⟩ := names.form
  cases mentions with
  | long form' named =>
    obtain ⟨rfl, rfl⟩ := Argument.long.inj (form'.symm.trans form)
    exact Opt.name_injective (Level.of_named? named).2
  | short form' => exact absurd (form'.symm.trans form) nofun

theorem Mentions.spelled {value : Option String} (mentions : Mentions level text p value)
    (long : p.letter? = none) : text = spelled p.name value := by
  cases mentions with
  | long form named =>
    rw [(Level.of_named? named).2]
    exact (of_ofText_long form).1
  | short form lettered =>
    have letter := (Level.of_lettered? lettered).2
    rw [long] at letter
    contradiction

theorem Spells.awaits (spells : Spells level (some p) args log) : ∃ text rest, log = (p, text) :: rest := by
  cases spells with
  | value form rest => exact ⟨_, _, rfl⟩

/-- Whatever option an argument names is in the row. -/
theorem Spells.names (spells : Spells level awaited args log) (among : text ∈ args) (names : Names o text) :
    ∃ entry ∈ log, entry.1 = o := by
  obtain ⟨value, form⟩ := names.form
  induction spells with
  | done => contradiction
  | escape form' =>
    obtain rfl := List.mem_singleton.mp among
    exact absurd (form'.symm.trans form) nofun
  | flag mentions kind rest ih | joined mentions kind rest ih =>
    obtain rfl | among := List.mem_cons.mp among
    · exact ⟨_, List.mem_cons_self, mentions.opt names⟩
    · obtain ⟨entry, member, same⟩ := ih among
      exact ⟨entry, List.mem_cons_of_mem _ member, same⟩
  | apart mentions kind rest ih =>
    obtain rfl | among := List.mem_cons.mp among
    · obtain ⟨text, log, rfl⟩ := rest.awaits
      exact ⟨_, List.mem_cons_self, mentions.opt names⟩
    · exact ih among
  | value form' rest ih =>
    obtain rfl | among := List.mem_cons.mp among
    · exact absurd (form'.symm.trans form) nofun
    · obtain ⟨entry, member, same⟩ := ih among
      exact ⟨entry, List.mem_cons_of_mem _ member, same⟩

theorem Mentions.among {value : Option String} (mentions : Mentions level text p value) : p ∈ level.options := by
  cases mentions with
  | long form named => exact (Level.of_named? named).1
  | short form lettered => exact (Level.of_lettered? lettered).1

theorem Spells.among (spells : Spells level awaited args log) (open? : ∀ p ∈ awaited, p ∈ level.options) :
    ∀ entry ∈ log, entry.1 ∈ level.options := by
  induction spells with
  | done | escape form => exact fun entry none => absurd none List.not_mem_nil
  | flag mentions kind rest ih | joined mentions kind rest ih =>
    exact List.forall_mem_cons.mpr ⟨mentions.among, ih nofun⟩
  | apart mentions kind rest ih =>
    apply ih
    rintro p ⟨⟩
    exact mentions.among
  | value form rest ih => exact List.forall_mem_cons.mpr ⟨open? _ rfl, ih nofun⟩

/-- No argument names an option of another level. -/
theorem Spells.foreign (spells : Spells level none args log) (foreign : o ∉ level.options) :
    ∀ text ∈ args, ¬ Names o text := by
  intro text among names
  obtain ⟨entry, logged, rfl⟩ := spells.names among names
  exact foreign (spells.among nofun entry logged)

theorem texts_cons_other (other : p ≠ o) : texts o ((p, text) :: log) = texts o log :=
  List.filterMap_cons_none (if_neg other)

theorem texts_cons_same : texts o ((o, text) :: log) = text :: texts o log :=
  List.filterMap_cons_some (if_pos rfl)

theorem given_other_form {form : Argument} (found : Argument.ofText text = form)
    (other : ∀ value, form ≠ .long o.name value) : given o (text :: args) = given o args := by
  apply given_other
  intro names
  obtain ⟨value, long⟩ := names.form
  exact other value (found.symm.trans long)

/-- The row holds what is given to an option that takes a value and has no letter. -/
theorem Spells.given_eq (spells : Spells level awaited args log) (kind : o.kind ≠ .flag) (long : o.letter? = none) :
    (if awaited = some o then args.take 1 else []) ++ given o args = texts o log := by
  -- What an argument leaves to the next one is counted where the next one is read.
  induction spells with
  | done => rfl
  | escape form =>
    rw [if_neg nofun, given_other_form form nofun]
    rfl
  | @flag text p value args log mentions flag rest ih =>
    have other : p ≠ o := fun same => kind (same ▸ flag)
    rw [if_neg nofun] at ih ⊢
    rw [given_other fun names => other (mentions.opt names), texts_cons_other other]
    exact ih
  | @joined text p value args log mentions valued rest ih =>
    rw [if_neg nofun] at ih ⊢
    by_cases same : p = o
    · obtain rfl := same
      rw [mentions.spelled long, given_attached, texts_cons_same, ← ih]
      rfl
    · rw [given_other fun names => same (mentions.opt names), texts_cons_other same]
      exact ih
  | @apart text p args log mentions valued rest ih =>
    rw [if_neg nofun]
    by_cases same : p = o
    · obtain rfl := same
      rw [if_pos rfl] at ih
      rw [mentions.spelled long, given_alone]
      exact ih
    · rw [if_neg fun awaited => same (Option.some.inj awaited)] at ih
      rw [given_other fun names => same (mentions.opt names)]
      exact ih
  | @value text p args log form rest ih =>
    rw [if_neg nofun] at ih
    rw [given_other_form form nofun]
    by_cases same : p = o
    · obtain rfl := same
      rw [if_pos rfl, texts_cons_same, ← ih]
      rfl
    · rw [if_neg fun awaited => same (Option.some.inj awaited), texts_cons_other same]
      exact ih

end IPsecControl.CommandLine
