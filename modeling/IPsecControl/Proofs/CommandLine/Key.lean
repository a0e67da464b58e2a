import IPsecControl.CommandLine.Value
import IPsecControl.Proofs.Text.Hex

/-! Keys on a command line. A text of a key is two hexadecimal digits for each byte, with colons anywhere
between them and marks in front; a text that is none is refused, whatever key it is near to. -/
namespace IPsecControl.CommandLine
open Text

/-- The text with colons put in anywhere. -/
inductive Dotted : List Char → List Char → Prop where
  | nil : Dotted [] []
  | colon {cs ds : List Char} : Dotted cs ds → Dotted (':' :: cs) ds
  | char (c : Char) {cs ds : List Char} : Dotted cs ds → Dotted (c :: cs) (c :: ds)

/-- So many marks in a row. -/
def marks (n : Nat) : List Char := (List.replicate n ['0', 'x']).flatten

/-- The text is marks, and behind them the digits of the key's bytes, with colons anywhere. -/
def Renders (cs : List Char) (key : List UInt8) : Prop :=
  ∃ n body digits, cs = marks n ++ body ∧ Dotted body digits ∧ Hex.Spells digits key

variable {cs ds body : List Char} {key : List UInt8}

/-! ### Marks -/

theorem marks_succ (n : Nat) (rest : List Char) :
    marks (n + 1) ++ rest = '0' :: 'x' :: (marks n ++ rest) := by
  simp [marks, List.replicate_succ]

theorem dropMarks_marks (n : Nat) (body : List Char) : dropMarks (marks n ++ body) = dropMarks body := by
  induction n with
  | zero => rfl
  | succ n ih => rw [marks_succ, dropMarks, ih]

theorem dropMarks_unmarked (unmarked : ¬ marks 1 <+: body) : dropMarks body = body := by
  unfold dropMarks
  split
  · exact absurd ⟨_, marks_succ 0 _⟩ unmarked
  · rfl

theorem mem_marks {n : Nat} {c : Char} (member : c ∈ marks n) : c = '0' ∨ c = 'x' := by
  obtain ⟨mark, among, member⟩ := List.mem_flatten.mp member
  rw [List.eq_of_mem_replicate among] at member
  simpa using member

theorem not_marked (cs : List Char) : ¬ marks 1 <+: dropMarks cs := by
  fun_induction dropMarks cs with
  | case1 _ ih => exact ih
  | case2 cs unmarked =>
    rintro ⟨rest, same⟩
    exact unmarked rest same.symm

theorem exists_marks (cs : List Char) : ∃ n, cs = marks n ++ dropMarks cs := by
  fun_induction dropMarks cs with
  | case1 cs ih =>
    obtain ⟨n, same⟩ := ih
    exact ⟨n + 1, by rw [marks_succ, ← same]⟩
  | case2 cs => exact ⟨0, rfl⟩

/-- A mark behind something else than marks is never dropped. -/
theorem mem_dropMarks {before : List Char} (other : ∀ n, before ≠ marks n) (rest : List Char) :
    'x' ∈ dropMarks (before ++ '0' :: 'x' :: rest) := by
  fun_induction dropMarks before with
  | case1 before ih =>
    refine ih fun n same => other (n + 1) ?_
    rw [same, ← List.append_nil (marks (n + 1)), marks_succ, List.append_nil]
  | case2 before unmarked =>
    have stays : ¬ marks 1 <+: before ++ '0' :: 'x' :: rest := by
      rintro ⟨tail, same⟩
      rw [marks_succ] at same
      rcases before with _ | ⟨c, _ | ⟨d, before⟩⟩
      · exact other 0 rfl
      · simp at same
      · simp only [List.cons_append, List.cons.injEq] at same
        exact unmarked before (by rw [same.1, same.2.1])
    rw [dropMarks_unmarked stays]
    simp

/-! ### Colons -/

theorem Dotted.filter (dotted : Dotted cs ds) (plain : ':' ∉ ds) : cs.filter (· ≠ ':') = ds := by
  induction dotted with
  | nil => rfl
  | colon _ ih => rw [List.filter_cons_of_neg (by simp), ih plain]
  | char c _ ih =>
    rw [List.mem_cons, not_or] at plain
    rw [List.filter_cons_of_pos (by simpa using Ne.symm plain.1), ih plain.2]

theorem dotted_filter (cs : List Char) : Dotted cs (cs.filter (· ≠ ':')) := by
  induction cs with
  | nil => exact .nil
  | cons c cs ih =>
    by_cases colon : c = ':'
    · subst colon
      rw [List.filter_cons_of_neg (by simp)]
      exact .colon ih
    · rw [List.filter_cons_of_pos (by simpa using colon)]
      exact .char c ih

theorem plain_of_spells (spells : Hex.Spells ds key) : ':' ∉ ds := by
  intro member
  exact absurd (spells.isDigit _ member) (by decide)

theorem readKey_eq_ok : readKey cs = .ok key ↔ Hex.Spells ((dropMarks cs).filter (· ≠ ':')) key := by
  rw [← Hex.decode_eq_ok_iff, readKey]
  cases Hex.decode ((dropMarks cs).filter (· ≠ ':')) with
  | error e => exact ⟨nofun, nofun⟩
  | ok bytes => simp [Except.mapError]

/-! ### Keys -/

theorem readKey_eq_ok_iff : readKey cs = .ok key ↔ Renders cs key := by
  rw [readKey_eq_ok]
  constructor
  · intro spells
    obtain ⟨n, same⟩ := exists_marks cs
    exact ⟨n, _, _, same, dotted_filter _, spells⟩
  · rintro ⟨n, body, digits, rfl, dotted, spells⟩
    have digits_eq := dotted.filter (plain_of_spells spells)
    have unmarked : ¬ marks 1 <+: body := by
      rintro ⟨rest, rfl⟩
      have digit : 'x' ∈ digits := by
        rw [← digits_eq, marks_succ]
        simp
      exact absurd (spells.isDigit _ digit) (by decide)
    rwa [dropMarks_marks, dropMarks_unmarked unmarked, digits_eq]

theorem refused_iff : (∃ e, readKey cs = .error e) ↔ ¬ ∃ key, readKey cs = .ok key := by
  cases readKey cs with
  | ok key => exact ⟨nofun, fun none => absurd ⟨key, rfl⟩ none⟩
  | error e => exact ⟨fun _ => nofun, fun _ => ⟨e, rfl⟩⟩

theorem refused_of_mem {c : Char} (kept : c ∈ dropMarks cs) (plain : c ≠ ':') (other : ¬ Hex.IsDigit c) :
    ∃ e, readKey cs = .error e := by
  rw [refused_iff]
  rintro ⟨key, read⟩
  have digits := (readKey_eq_ok.mp read).isDigit
  exact other (digits c (List.mem_filter.mpr ⟨kept, by simpa using plain⟩))

/-- Where there are digits and colons only, what is left without the colons is the digits. -/
theorem filter_digits (only : ∀ c ∈ body, c = ':' ∨ Hex.IsDigit c) :
    (body.filter (· ≠ ':')).length = body.countP Hex.IsDigit := by
  rw [List.countP_eq_length_filter]
  congr 1
  refine List.filter_congr fun c member => ?_
  have colon : ¬ Hex.IsDigit ':' := by decide
  obtain rfl | digit := only c member
  · simp [colon]
  · have plain : c ≠ ':' := fun same => colon (same ▸ digit)
    simp [plain, digit]

/-- Behind its marks, a text that is read has colons and an even number of digits, and nothing else. -/
theorem exists_readKey_iff : (∃ key, readKey cs = .ok key) ↔
    (∀ c ∈ dropMarks cs, c = ':' ∨ Hex.IsDigit c) ∧ (dropMarks cs).countP Hex.IsDigit % 2 = 0 := by
  simp only [readKey_eq_ok, Hex.exists_spells_iff]
  have each : (∀ c ∈ (dropMarks cs).filter (· ≠ ':'), Hex.IsDigit c) ↔
      ∀ c ∈ dropMarks cs, c = ':' ∨ Hex.IsDigit c := by
    simp only [List.mem_filter, decide_eq_true_eq, and_imp, or_iff_not_imp_left]
  rw [each]
  exact and_congr_right fun only => by rw [filter_digits only]

/-- A text is read as a key if and only if it renders the key. It is refused if and only if something else
than digits and colons stands behind its marks, or the digits there are odd in number; the key has a byte
for every two of them. An `0x` behind anything else than marks is refused, and so is a character that no
key is written with, as the `X` of an `0X`, wherever it stands. -/
theorem readKey_exact (cs : List Char) :
    (∀ key, readKey cs = .ok key ↔ Renders cs key) ∧
    (∃ n body, cs = marks n ++ body ∧ ¬ marks 1 <+: body ∧
      ((∃ e, readKey cs = .error e) ↔
        (∃ c ∈ body, c ≠ ':' ∧ ¬ Hex.IsDigit c) ∨ body.countP Hex.IsDigit % 2 = 1) ∧
      ∀ key, readKey cs = .ok key → 2 * key.length = body.countP Hex.IsDigit) ∧
    (∀ before rest, cs = before ++ '0' :: 'x' :: rest → (∀ n, before ≠ marks n) →
      ∃ e, readKey cs = .error e) ∧
    ∀ c ∈ cs, c ≠ 'x' → c ≠ ':' → ¬ Hex.IsDigit c → ∃ e, readKey cs = .error e := by
  refine ⟨fun key => readKey_eq_ok_iff, ?_, ?_, ?_⟩
  · obtain ⟨n, same⟩ := exists_marks cs
    refine ⟨n, dropMarks cs, same, not_marked cs, ?_, ?_⟩
    · rw [refused_iff, exists_readKey_iff, not_and_or]
      refine or_congr ?_ (by omega)
      simp only [not_forall, not_or, exists_prop]
    · intro key read
      have only := (exists_readKey_iff.mp ⟨key, read⟩).1
      rw [← filter_digits only, (readKey_eq_ok.mp read).length]
  · rintro before rest rfl other
    exact refused_of_mem (mem_dropMarks other rest) (by decide) (by decide)
  · intro c member mark plain other
    obtain ⟨n, same⟩ := exists_marks cs
    rw [same, List.mem_append] at member
    refine refused_of_mem (member.resolve_left fun among => ?_) plain other
    obtain rfl | rfl := mem_marks among
    · exact other (by decide)
    · exact mark rfl

theorem readKey_exact_dotted :
    readKey "0x0xDe:aD:b:E:Ef:".toList = .ok [0xDE, 0xAD, 0xBE, 0xEF] ∧
    (∀ n, "0x:".toList ≠ marks n) ∧ (∃ e, readKey "0x:0x12".toList = .error e) ∧
    ('X' ∈ "0X12".toList ∧ 'X' ≠ 'x' ∧ 'X' ≠ ':' ∧ ¬ Hex.IsDigit 'X') ∧
    ∃ e, readKey "0X12".toList = .error e := by
  have renders : Renders "0x0xDe:aD:b:E:Ef:".toList [0xDE, 0xAD, 0xBE, 0xEF] := by
    refine ⟨2, "De:aD:b:E:Ef:".toList, "DeaDbEEf".toList, rfl, ?_, ?_⟩
    · exact dotted_filter "De:aD:b:E:Ef:".toList
    · exact .byte (by decide) (by decide) (.byte (by decide) (by decide)
        (.byte (by decide) (by decide) (.byte (by decide) (by decide) .nil)))
  have other : ∀ n, "0x:".toList ≠ marks n := by
    intro n same
    have colon : ':' ∈ marks n := same ▸ by decide
    exact absurd (mem_marks colon) (by decide)
  have foreign : 'X' ∈ "0X12".toList ∧ 'X' ≠ 'x' ∧ 'X' ≠ ':' ∧ ¬ Hex.IsDigit 'X' := by decide
  exact ⟨((readKey_exact _).1 _).mpr renders, other, (readKey_exact _).2.2.1 "0x:".toList _ rfl other,
    foreign, (readKey_exact _).2.2.2 'X' foreign.1 foreign.2.1 foreign.2.2.1 foreign.2.2.2⟩

end IPsecControl.CommandLine
