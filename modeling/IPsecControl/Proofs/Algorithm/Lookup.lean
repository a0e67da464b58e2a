import IPsecControl.Proofs.Algorithm.Table
import IPsecControl.Proofs.Text.Blank
import Mathlib.Data.List.Nodup

/-! Looking names up. A text names a code if and only if the table lists, for that code, the text without the
blanks around it and in lower case; nothing else is made of a text that names none. -/
namespace IPsecControl
open Message Text

/-! ### Rows of results -/

namespace Result
variable {α β : Type} {f : α → Result β} {as : List α}

theorem mapM_of_forall₂ {bs : List β} (each : List.Forall₂ (fun a b => f a = .ok b) as bs) :
    as.mapM f = .ok bs := by
  induction each with
  | nil => rfl
  | cons first _ ih =>
    rw [List.mapM_cons, first, ih]
    rfl

/-- A row fails for the first element that does. -/
theorem mapM_eq_error_iff {e : Error} : as.mapM f = .error e ↔
    ∃ before a after, as = before ++ a :: after ∧ (∀ b ∈ before, ∃ c, f b = .ok c) ∧ f a = .error e := by
  induction as with
  | nil => simp [pure, Except.pure]
  | cons a rest ih =>
    rw [List.mapM_cons]
    cases first : f a with
    | error e' =>
      constructor
      · rintro ⟨⟩
        exact ⟨[], a, rest, rfl, List.forall_mem_nil _, first⟩
      · rintro ⟨before, b, after, same, passed, failed⟩
        cases before with
        | nil =>
          cases same
          rw [first] at failed
          cases failed
          rfl
        | cons b' before =>
          cases same
          obtain ⟨c, ok⟩ := passed a List.mem_cons_self
          rw [first] at ok
          contradiction
    | ok c =>
      have next : (Except.ok c >>= fun b => rest.mapM f >>= fun bs => pure (b :: bs)) = .error e ↔
          rest.mapM f = .error e := by
        cases rest.mapM f <;> simp [bind, Except.bind, pure, Except.pure]
      rw [next, ih]
      constructor
      · rintro ⟨before, b, after, rfl, passed, failed⟩
        exact ⟨a :: before, b, after, rfl, List.forall_mem_cons.mpr ⟨⟨c, first⟩, passed⟩, failed⟩
      · rintro ⟨before, b, after, same, passed, failed⟩
        cases before with
        | nil =>
          cases same
          rw [first] at failed
          contradiction
        | cons b' before =>
          cases same
          exact ⟨before, b, after, rfl, (List.forall_mem_cons.mp passed).2, failed⟩

end Result

/-! ### One table -/

namespace NameTable
variable {α : Type} {table : NameTable α} {given other : String} {code : α}

/-- A text spells a name: without the blanks around it and in lower case it is the name. -/
def Spells (given name : String) : Prop :=
  ∃ core, Trims given.toList core ∧ name.toList = core.map Char.toLower

/-- The other text has blanks around it, and may have the letters in another case. -/
def Restyled (given other : String) : Prop :=
  ∃ before core after, Blank before ∧ Blank after ∧ other.toList = before ++ core ++ after ∧
    core.map Char.toLower = given.toList.map Char.toLower

theorem normalize_eq_iff {name : String} : normalize given = name ↔ Spells given name := by
  rw [normalize, map_lowerAscii, ← String.toList_inj, String.toList_ofList]
  constructor
  · intro same
    exact ⟨_, trims_trim given.toList, same.symm⟩
  · rintro ⟨core, trims, same⟩
    rw [trim_eq_iff.mpr trims, same]

theorem Restyled.normalize_eq (restyled : Restyled given other) : normalize other = normalize given := by
  obtain ⟨before, core, after, front, back, whole, letters⟩ := restyled
  have lower : core.map lowerAscii = given.toList.map lowerAscii := by
    rw [map_lowerAscii, letters, map_lowerAscii]
  rw [normalize, normalize, whole, trim_around front back, ← trim_map_lowerAscii, lower,
    trim_map_lowerAscii]

theorem lookup_eq_ok_iff (distinct : table.names.Nodup) :
    table.lookup given = .ok code ↔ (normalize given, code) ∈ table.entries := by
  constructor
  · exact lookup_listed
  · intro listed
    cases found : table.lookup given with
    | error e => exact absurd (List.mem_map_of_mem listed) (unknown_of_lookup found).1
    | ok c =>
      -- No name is listed twice, so that what was found is what is listed.
      have same := List.inj_on_of_nodup_map distinct (lookup_listed found) listed rfl
      rw [(Prod.mk.inj same).2]

theorem lookup_eq_error_iff {e : Error} : table.lookup given = .error e ↔
    (∀ code, table.lookup given ≠ .ok code) ∧ e = .unknownName table.kind given := by
  cases found : table.lookup given with
  | error e' =>
    rw [(unknown_of_lookup found).2]
    simp [eq_comm]
  | ok c => simp

theorem lookup_perm (distinct : table.names.Nodup) {entries : List (String × α)}
    (perm : entries.Perm table.entries) :
    { table with entries }.lookup given = table.lookup given := by
  have distinct' : { table with entries }.names.Nodup := (perm.map Prod.fst).nodup_iff.mpr distinct
  have same (code : α) : { table with entries }.lookup given = .ok code ↔ table.lookup given = .ok code := by
    rw [lookup_eq_ok_iff distinct', lookup_eq_ok_iff distinct]
    exact perm.mem_iff
  cases found : table.lookup given with
  | ok code => exact (same code).mpr found
  | error e =>
    obtain ⟨none, rfl⟩ := lookup_eq_error_iff.mp found
    exact lookup_eq_error_iff.mpr ⟨fun code ok => none code ((same code).mp ok), rfl⟩

theorem lookup_canonical [DecidableEq α] (distinct : table.names.Nodup)
    (plain : ∀ name ∈ table.names, normalize name = name) (found : table.lookup given = .ok code) :
    ∃ name, table.canonical? code = some name ∧ table.lookup name = .ok code := by
  have listed := lookup_listed found
  cases canonical : table.canonical? code with
  | none =>
    have absent := List.find?_eq_none.mp (Option.map_eq_none_iff.mp canonical) _ listed
    exact absurd (decide_eq_true rfl) absent
  | some name =>
    obtain ⟨⟨name, c⟩, first, rfl⟩ := Option.map_eq_some_iff.mp canonical
    have same := List.find?_some first
    obtain rfl : c = code := of_decide_eq_true same
    have entry := List.mem_of_find?_eq_some first
    refine ⟨name, rfl, ?_⟩
    rw [lookup_eq_ok_iff distinct, plain name (List.mem_map_of_mem entry)]
    exact entry

end NameTable

/-! ### The tables -/

/-- What has a name. -/
inductive Subject where
  | cipher
  | integrity
  | group
  | mode
  | protocol
  | authMethod

namespace Subject

abbrev Code : Subject → Type
  | .cipher => Cipher
  | .integrity => Integrity
  | .group => DhGroup
  | .mode => Mode
  | .protocol => Protocol
  | .authMethod => AuthMethod

instance : (s : Subject) → DecidableEq s.Code
  | .cipher => inferInstanceAs (DecidableEq Cipher)
  | .integrity => inferInstanceAs (DecidableEq Integrity)
  | .group => inferInstanceAs (DecidableEq DhGroup)
  | .mode => inferInstanceAs (DecidableEq Mode)
  | .protocol => inferInstanceAs (DecidableEq Protocol)
  | .authMethod => inferInstanceAs (DecidableEq AuthMethod)

def table : (s : Subject) → NameTable s.Code
  | .cipher => Algorithm.ciphers
  | .integrity => Algorithm.integrities
  | .group => Algorithm.groups
  | .mode => Algorithm.modes
  | .protocol => Algorithm.protocols
  | .authMethod => Algorithm.authMethods

/-- The code that leaves it open, where there is one. -/
def unspecified? : (s : Subject) → Option s.Code
  | .cipher => some Cipher.unspecified
  | .integrity => none
  | .group => none
  | .mode => some Mode.unspecified
  | .protocol => some Protocol.unspecified
  | .authMethod => some AuthMethod.unspecified

variable (s : Subject)

theorem names_distinct : s.table.names.Nodup := by cases s <;> decide

theorem names_plain : ∀ name ∈ s.table.names, NameTable.normalize name = name := by
  cases s <;> decide

theorem codes_specified : ∀ entry ∈ s.table.entries, some entry.2 ≠ s.unspecified? := by
  cases s <;> decide

open NameTable

/-- A text is accepted for exactly the code of the name that it spells, in whatever order the table lists its
names, and that code has a name of its own and leaves nothing open. Every other text is refused as it was
given. Of a list, every name is looked up in its place, up to the first that is unknown. -/
theorem lookup_exact (given : String) :
    (∀ code, s.table.lookup given = .ok code ↔
      ∃ name, Spells given name ∧ (name, code) ∈ s.table.entries) ∧
    (∀ e, s.table.lookup given = .error e ↔
      (∀ code, s.table.lookup given ≠ .ok code) ∧ e = .unknownName s.table.kind given) ∧
    (∀ code, s.table.lookup given = .ok code → some code ≠ s.unspecified? ∧
      ∃ name, s.table.canonical? code = some name ∧ s.table.lookup name = .ok code) ∧
    (∀ entries, entries.Perm s.table.entries →
      { s.table with entries }.lookup given = s.table.lookup given) ∧
    (∀ other, Restyled given other →
      ∀ code, s.table.lookup other = .ok code ↔ s.table.lookup given = .ok code) ∧
    ∀ names,
      (∀ codes, s.table.lookupAll names = .ok codes ↔
        List.Forall₂ (fun name code => s.table.lookup name = .ok code) names codes) ∧
      ∀ e, s.table.lookupAll names = .error e ↔ ∃ before name after, names = before ++ name :: after ∧
        (∀ known ∈ before, ∃ code, s.table.lookup known = .ok code) ∧ s.table.lookup name = .error e := by
  have distinct := s.names_distinct
  refine ⟨?_, ?_, ?_, ?_, ?_, ?_⟩
  · intro code
    rw [lookup_eq_ok_iff distinct]
    constructor
    · intro listed
      exact ⟨_, normalize_eq_iff.mp rfl, listed⟩
    · rintro ⟨name, spelled, listed⟩
      rwa [normalize_eq_iff.mpr spelled]
  · intro e
    exact lookup_eq_error_iff
  · intro code found
    exact ⟨s.codes_specified _ (lookup_listed found), lookup_canonical distinct s.names_plain found⟩
  · intro entries perm
    exact lookup_perm distinct perm
  · intro other restyled code
    rw [lookup_eq_ok_iff distinct, lookup_eq_ok_iff distinct, restyled.normalize_eq]
  · intro names
    constructor
    · intro codes
      exact ⟨Result.forall₂_of_mapM, Result.mapM_of_forall₂⟩
    · intro e
      exact Result.mapM_eq_error_iff

/-- Another name of a group, in capitals between blanks, and a name that only begins like two others. -/
theorem lookup_exact_alias :
    Restyled "x25519" "\u2003X25519\t" ∧
    group.table.lookup "\u2003X25519\t" = .ok DhGroup.curve25519 ∧
    group.table.canonical? DhGroup.curve25519 = some "curve25519" ∧
    integrity.table.lookupAll ["sha2_256", "sha2_256_", "md5"] =
      .error (.unknownName "integrity" "sha2_256_") := by
  have restyled : Restyled "x25519" "\u2003X25519\t" :=
    ⟨['\u2003'], "X25519".toList, ['\t'], List.forall_mem_singleton.mpr rfl,
      List.forall_mem_singleton.mpr rfl, rfl, rfl⟩
  obtain ⟨-, -, -, -, alike, -⟩ := lookup_exact group "x25519"
  have found := (alike _ restyled DhGroup.curve25519).mpr (by decide)
  obtain ⟨-, -, -, -, -, lists⟩ := lookup_exact integrity "sha2_256"
  have known : ∀ name ∈ ["sha2_256"], ∃ code, integrity.table.lookup name = .ok code :=
    List.forall_mem_singleton.mpr ⟨Integrity.hmacSha2x512x256, by decide⟩
  have refused : integrity.table.lookup "sha2_256_" = .error (.unknownName "integrity" "sha2_256_") := by
    decide
  refine ⟨restyled, found, by decide, ?_⟩
  exact ((lists _).2 _).mpr ⟨["sha2_256"], "sha2_256_", ["md5"], rfl, known, refused⟩

end Subject
end IPsecControl
