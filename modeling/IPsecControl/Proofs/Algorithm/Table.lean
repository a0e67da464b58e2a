import IPsecControl.Algorithm.Table
import IPsecControl.Message.Reading
import IPsecControl.Proofs.Error.Requirements

/-! Names and codes. A table gives a code for exactly the names that it lists, and every code that a
message carries for a member of an enumeration reads as that member. -/
namespace IPsecControl
open Message

namespace NameTable
variable {α : Type} (table : NameTable α) {name : String}

def Knows (name : String) : Prop := normalize name ∈ table.names

instance (name : String) : Decidable (table.Knows name) := inferInstanceAs (Decidable (normalize name ∈ table.names))

def requirement (name : String) : Requirement := ⟨table.Knows name, .unknownName table.kind name⟩

variable {table}

theorem lookup_listed {code : α} (found : table.lookup name = .ok code) :
    (normalize name, code) ∈ table.entries := by
  unfold lookup find? at found
  split at found
  next c first =>
    cases found
    obtain ⟨⟨n, c⟩, present, rfl⟩ := Option.map_eq_some_iff.mp first
    have same := List.find?_some present
    rw [← eq_of_beq same]
    exact List.mem_of_find?_eq_some present
  next => contradiction

theorem unknown_of_lookup {e : Error} (refused : table.lookup name = .error e) :
    ¬ table.Knows name ∧ e = .unknownName table.kind name := by
  unfold lookup find? at refused
  split at refused
  next => contradiction
  next none =>
    cases refused
    refine ⟨?_, rfl⟩
    intro known
    obtain ⟨⟨n, c⟩, listed, same⟩ := List.mem_map.mp known
    have other := List.find?_eq_none.mp (Option.map_eq_none_iff.mp none) _ listed
    exact other (beq_iff_eq.mpr same)

variable (table)

theorem lookup_requires (name : String) :
    Requires (table.lookup name) [table.requirement name] := by
  apply Requires.intro
  · intro code found r member
    cases List.mem_singleton.mp member
    exact List.mem_map_of_mem (lookup_listed found)
  · intro e refused
    obtain ⟨unknown, rfl⟩ := unknown_of_lookup refused
    exact .here unknown []

theorem lookupAll_requires (names : List String) :
    Requires (table.lookupAll names) (names.map table.requirement) := by
  rw [List.map_eq_flatMap]
  exact Requires.list_mapM table.lookup_requires names

end NameTable

namespace Algorithm
variable {name : String}

theorem cipherNeedsKey_of_lookup {c : Cipher} (found : ciphers.lookup name = .ok c) :
    cipherNeedsKey c = false ↔ c = .null := by
  have listed : ∀ entry ∈ ciphers.entries, cipherNeedsKey entry.2 = false ↔ entry.2 = .null := by
    decide
  exact listed _ (NameTable.lookup_listed found)

theorem integrityNeedsKey_eq_false (i : Integrity) : integrityNeedsKey i = false ↔ i = .none := by
  cases i <;> decide

end Algorithm

namespace Message.Enumeration

/-- Each member is the meaning of its code. -/
class Faithful (α : Type) [Enumeration α] : Prop where
  ofCode?_code (a : α) : ofCode? (code a) = some a

instance : Faithful Protocol := ⟨fun p => by cases p <;> rfl⟩
instance : Faithful Mode := ⟨fun m => by cases m <;> rfl⟩
instance : Faithful Cipher := ⟨fun c => by cases c <;> rfl⟩
instance : Faithful Integrity := ⟨fun i => by cases i <;> rfl⟩
instance : Faithful DhGroup := ⟨fun g => by cases g <;> rfl⟩
instance : Faithful AuthMethod := ⟨fun m => by cases m <;> rfl⟩

variable {α : Type} [Enumeration α] [Faithful α]

@[simp] theorem ofCode_code (a : α) : ofCode (code a) = a := by
  rw [ofCode, Faithful.ofCode?_code, Option.getD_some]

/-- No member of a list is left out. -/
@[simp] theorem known_codes (as : List α) : known (as.map code) = as := by
  rw [known, List.filterMap_map]
  have reads : ofCode? ∘ code = (some : α → Option α) := funext Faithful.ofCode?_code
  rw [reads, List.filterMap_some]

end Message.Enumeration
end IPsecControl
