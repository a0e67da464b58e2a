import IPsecControl.Shell.Run
import Mathlib.Data.List.Basic

/-! Words that mean what they spell. Outside quotes these are words of characters to which the shell gives no
meaning; inside quotes any text will do, and only its line breaks are lost. Such a word is read up to its end
whatever follows it, and it expands to one field without a change of the shell's state. -/
namespace IPsecControl.Shell

/-- Characters that stand for themselves outside quotes, wherever they stand in a command line. -/
def isPlain (c : Char) : Bool :=
  !(endsWord c || isSpecial c || ['\'', '#', '=', '~', '*', '?', '['].contains c)

theorem isPlain_iff {c : Char} : isPlain c = true ↔
    endsWord c = false ∧ isSpecial c = false ∧ c ∉ ['\'', '#', '=', '~', '*', '?', '['] := by
  simp [isPlain, and_assoc]

theorem isBlank_eq_false {c : Char} (within : endsWord c = false) : isBlank c = false := by
  simp only [endsWord, Bool.or_eq_false_iff] at within
  exact within.1.1.1.1.1.1.1.1

/-- What the shell leaves of a text in double quotes: a line break behind a backslash goes on with the line. -/
def unbroken (cs : List Char) : List Char := cs.filter (· ≠ '\n')

theorem unbroken_eq_self_iff {cs : List Char} : unbroken cs = cs ↔ '\n' ∉ cs := by
  rw [unbroken, List.filter_eq_self]
  constructor
  · intro all broken
    simpa using all '\n' broken
  · intro whole c among
    exact decide_eq_true fun broken => whole (broken ▸ among)

def plainWord (cs : List Char) : Word := cs.map (.char · false)
def quotedWord (cs : List Char) : Word := .quotes :: cs.map (.char · true)

/-! ### Reading -/

section Reading
variable {cs rest : List Char} {w : Word}

/-- Puts the beginning of a word in front of what is read of it. -/
def putWord (front : Word) (read : Except SyntaxError (Word × List Char)) :
    Except SyntaxError (Word × List Char) :=
  read.map fun (word, rest) => (front ++ word, rest)

theorem putWord_nil (read : Except SyntaxError (Word × List Char)) : putWord [] read = read := by
  cases read <;> rfl

theorem putFront_putWord (p : Piece) (front : Word) (read : Except SyntaxError (Word × List Char)) :
    putFront p (putWord front read) = putWord (p :: front) read := by
  cases read <;> rfl

theorem putWord_putWord (first second : Word) (read : Except SyntaxError (Word × List Char)) :
    putWord first (putWord second read) = putWord (first ++ second) read := by
  induction first with
  | nil => exact putWord_nil _
  | cons p first ih => rw [← putFront_putWord, ih, putFront_putWord, List.cons_append]

theorem readWord_plain {c : Char} (plain : isPlain c = true) (rest : List Char) :
    readWord .plain (c :: rest) = putFront (.char c false) (readWord .plain rest) := by
  obtain ⟨within, ordinary, others⟩ := isPlain_iff.mp plain
  simp only [isSpecial, Bool.or_eq_false_iff, beq_eq_false_iff_ne] at ordinary
  simp only [List.mem_cons, not_or] at others
  rw [readWord.eq_def]
  simp [within, ordinary, others]

/-- A backslash takes the meaning of the character behind it, and goes away with a line break. -/
theorem readWord_escaped (c : Char) (rest : List Char) :
    readWord .double (escaped c ++ rest) =
      if c = '\n' then readWord .double rest
      else putFront (.char c true) (readWord .double rest) := by
  by_cases special : isSpecial c = true
  · rw [escaped, if_pos special, List.cons_append, List.cons_append, List.nil_append, readWord.eq_def]
    simp [special]
  · rw [escaped, if_neg special, List.cons_append, List.nil_append, readWord.eq_def]
    have ordinary := Bool.of_not_eq_true special
    simp only [isSpecial, Bool.or_eq_false_iff, beq_eq_false_iff_ne] at ordinary
    simp [ordinary]

theorem readWord_within_quotes (cs rest : List Char) :
    readWord .double (cs.flatMap escaped ++ '"' :: rest) =
      putWord ((unbroken cs).map (.char · true)) (readWord .plain rest) := by
  induction cs with
  | nil =>
    rw [List.flatMap_nil, List.nil_append, readWord.eq_def]
    exact (putWord_nil _).symm
  | cons c cs ih =>
    rw [List.flatMap_cons, List.append_assoc, readWord_escaped, ih]
    by_cases broken : c = '\n'
    · simp [broken, unbroken]
    · simp [broken, unbroken, putFront_putWord]

theorem readWord_quoteChars (cs rest : List Char) :
    readWord .plain (quoteChars cs ++ rest) =
      putWord (quotedWord (unbroken cs)) (readWord .plain rest) := by
  have opened : quoteChars cs ++ rest = '"' :: (cs.flatMap escaped ++ '"' :: rest) := by
    simp [quoteChars]
  have quoted := readWord_within_quotes cs rest
  rw [opened, readWord.eq_def, quotedWord, ← putFront_putWord, ← quoted]
  rfl

/-- The text spells the word: character by character, or with quotes around texts. -/
inductive Spells : List Char → Word → Prop where
  | done : Spells [] []
  | plain {c : Char} {cs : List Char} {w : Word} :
      isPlain c = true → Spells cs w → Spells (c :: cs) (.char c false :: w)
  | quoted {rest : List Char} {w : Word} (cs : List Char) :
      Spells rest w → Spells (quoteChars cs ++ rest) (quotedWord (unbroken cs) ++ w)

theorem Spells.of_plain {cs : List Char} (plain : cs.all isPlain = true) : Spells cs (plainWord cs) := by
  induction cs with
  | nil => exact .done
  | cons c cs ih =>
    obtain ⟨first, others⟩ := Bool.and_eq_true_iff.mp plain
    exact .plain first (ih others)

theorem Spells.quoteChars (cs : List Char) : Spells (quoteChars cs) (quotedWord (unbroken cs)) := by
  have alone := Spells.quoted cs .done
  rwa [List.append_nil, List.append_nil] at alone

/-- No more of a word stands in front of the text. -/
def Ended (rest : List Char) : Prop := ∀ c ∈ rest.head?, endsWord c = true

theorem readWord_ended (ended : Ended rest) : readWord .plain rest = .ok ([], rest) := by
  cases rest with
  | nil => rw [readWord.eq_def, if_pos rfl]
  | cons c rest =>
    rw [readWord.eq_def]
    exact if_pos (ended c rfl)

theorem Spells.read_onto (spelled : Spells cs w) (rest : List Char) :
    readWord .plain (cs ++ rest) = putWord w (readWord .plain rest) := by
  induction spelled with
  | done => exact (putWord_nil _).symm
  | plain plain _ ih => rw [List.cons_append, readWord_plain plain, ih, putFront_putWord]
  | quoted cs _ ih => rw [List.append_assoc, readWord_quoteChars, ih, putWord_putWord]

theorem Spells.read (spelled : Spells cs w) (ended : Ended rest) :
    readWord .plain (cs ++ rest) = .ok (w, rest) := by
  calc readWord .plain (cs ++ rest)
      _ = putWord w (.ok ([], rest)) := by rw [spelled.read_onto, readWord_ended ended]
      _ = .ok (w ++ [], rest) := rfl
      _ = .ok (w, rest) := by rw [List.append_nil]

theorem escaped_ne_nil (c : Char) : escaped c ≠ [] := by
  unfold escaped
  split <;> exact List.cons_ne_nil _ _

theorem length_quotedWord_le (cs : List Char) : (quotedWord (unbroken cs)).length ≤ (quoteChars cs).length := by
  have kept : (unbroken cs).length ≤ (cs.flatMap escaped).length := by
    induction cs with
    | nil => exact Nat.le_refl _
    | cons c cs ih =>
      have written := List.length_pos_of_ne_nil (escaped_ne_nil c)
      have dropped : (unbroken (c :: cs)).length ≤ (unbroken cs).length + 1 := by
        rw [unbroken, List.filter_cons]
        split
        · exact Nat.le_refl _
        · exact Nat.le_succ _
      rw [List.flatMap_cons, List.length_append]
      omega
  simp only [quotedWord, quoteChars, List.length_cons, List.length_append, List.length_map]
  omega

theorem Spells.length_le (spelled : Spells cs w) : w.length ≤ cs.length := by
  induction spelled with
  | done => exact Nat.le_refl _
  | plain _ _ ih => exact Nat.succ_le_succ ih
  | quoted cs _ ih =>
    rw [List.length_append, List.length_append]
    exact Nat.add_le_add (length_quotedWord_le cs) ih

/-- The first character of a spelling begins a word, and neither a comment nor a line that goes on. -/
theorem Spells.head (spelled : Spells cs w) (some : cs ≠ []) :
    ∃ c tail, cs = c :: tail ∧ endsWord c = false ∧ c ≠ '#' ∧ c ≠ '\\' := by
  cases spelled with
  | done => exact absurd rfl some
  | plain plain _ =>
    obtain ⟨within, ordinary, others⟩ := isPlain_iff.mp plain
    refine ⟨_, _, rfl, within, ?_, ?_⟩
    · rintro rfl
      exact others (by decide)
    · rintro rfl
      exact absurd ordinary (by decide)
  | quoted cs _ => exact ⟨'"', _, rfl, by decide, by decide, by decide⟩

end Reading

/-! ### Expansion -/

namespace Piece

/-- Pieces that expand to themselves, and take part in no pattern. -/
def isLiteral : Piece → Bool
  | .quotes => true
  | .char c quoted => quoted || isPlain c
  | _ => false

def char? : Piece → Option QuotedChar
  | .char c quoted => some (c, quoted)
  | _ => none

def mark : Piece → Mark
  | .char c quoted => .char (c, quoted)
  | _ => .here

end Piece

def wordText (w : Word) : String := textOf (w.filterMap Piece.char?)

theorem wordText_plainWord (cs : List Char) : wordText (plainWord cs) = String.ofList cs := by
  simp [wordText, plainWord, textOf, List.filterMap_map, Function.comp_def, Piece.char?]

theorem wordText_quotedWord (cs : List Char) : wordText (quotedWord cs) = String.ofList cs := by
  simp [wordText, quotedWord, textOf, List.filterMap_map, List.filterMap_cons, Function.comp_def, Piece.char?]

/-- A word that is there, if only as a pair of quotes, and is made of literal pieces. -/
structure Literal (w : Word) : Prop where
  some : w ≠ []
  pieces : w.all Piece.isLiteral = true

theorem Spells.pieces {cs : List Char} {w : Word} (spelled : Spells cs w) :
    w.all Piece.isLiteral = true := by
  induction spelled with
  | done => rfl
  | plain plain _ ih => exact Bool.and_eq_true_iff.mpr ⟨plain, ih⟩
  | quoted cs _ ih =>
    rw [List.all_append, ih, Bool.and_true]
    simp [quotedWord, Piece.isLiteral]

theorem Spells.literal {cs : List Char} {w : Word} (spelled : Spells cs w) (some : cs ≠ []) :
    Literal w where
  pieces := spelled.pieces
  some := by
    cases spelled with
    | done => exact absurd rfl some
    | plain | quoted => exact List.cons_ne_nil _ _

section Expansion
variable (host : Host) (line : Nat) {fuel : Nat} {s : State}

theorem expand_pieces {w : Word} (literal : w.all Piece.isLiteral = true) (enough : w.length ≤ fuel)
    (stays : s.leaving = none) : expand host line fuel w s = (w.map Piece.mark, s) := by
  induction w generalizing fuel with
  | nil => cases fuel <;> rfl
  | cons p w ih =>
    obtain ⟨fuel, rfl⟩ := Nat.exists_eq_add_one_of_ne_zero (Nat.ne_zero_of_lt enough)
    obtain ⟨first, others⟩ := Bool.and_eq_true_iff.mp literal
    have later := ih others (Nat.le_of_succ_le_succ enough)
    cases p with
    | quotes => simp [expand, stays, later, Piece.mark]
    | char c quoted =>
      have noGap : (!quoted && isBlank c) = false := by
        cases quoted with
        | true => rfl
        | false => exact isBlank_eq_false (isPlain_iff.mp first).1
      simp [expand, stays, later, Piece.mark, noGap]
    | parameter | braced | arithmetic | substitution => exact absurd first Bool.false_ne_true

theorem fields_marks (field : List QuotedChar) (w : Word) :
    fields (some field) (w.map Piece.mark) = [field.reverse ++ w.filterMap Piece.char?] := by
  induction w generalizing field with
  | nil => simp [fields]
  | cons p w ih => cases p <;> simp [fields, Piece.mark, Piece.char?, List.filterMap_cons, ih]

/-- Without gaps there is one field, also of a word without characters. -/
theorem fields_word {w : Word} (some : w ≠ []) :
    fields none (w.map Piece.mark) = [w.filterMap Piece.char?] := by
  cases w with
  | nil => exact absurd rfl some
  | cons p w => cases p <;> simp [fields, Piece.mark, Piece.char?, List.filterMap_cons, fields_marks]

theorem fileNames_word {w : Word} (literal : w.all Piece.isLiteral = true) (s : State) :
    fileNames s (w.filterMap Piece.char?) = [wordText w] := by
  have noPattern : ((w.filterMap Piece.char?).any fun c =>
      [('*', false), ('?', false), ('[', false)].contains c) = false := by
    rw [List.any_eq_false]
    rintro ⟨c, quoted⟩ shown
    obtain ⟨p, among, same⟩ := List.mem_filterMap.mp shown
    have kept := List.all_eq_true.mp literal p among
    cases p with
    | char d _ =>
      cases same
      cases quoted with
      | true => simp
      | false =>
        have others := (isPlain_iff.mp kept).2.2
        simp only [List.mem_cons, not_or] at others
        simp [others]
    | quotes | parameter | braced | arithmetic | substitution => cases same
  rw [fileNames, noPattern]
  simp [wordText]

theorem expandAll_literal {ws : List Word} (literal : ∀ w ∈ ws, Literal w)
    (enough : ∀ w ∈ ws, w.length + ws.length ≤ fuel) (stays : s.leaving = none) :
    expandAll host line fuel ws s = (ws.map wordText, s) := by
  induction ws generalizing fuel with
  | nil => cases fuel <;> rfl
  | cons w ws ih =>
    obtain ⟨first, others⟩ := List.forall_mem_cons.mp literal
    obtain ⟨short, later⟩ := List.forall_mem_cons.mp enough
    rw [List.length_cons] at short later
    obtain ⟨fuel, rfl⟩ := Nat.exists_eq_add_one_of_ne_zero (n := fuel) (by omega)
    have short : w.length ≤ fuel := by omega
    have rest : expandAll host line fuel ws s = (ws.map wordText, s) := by
      apply ih others
      intro v among
      have := later v among
      omega
    rw [expandAll, expand_pieces host line first.pieces short stays]
    simp [rest, fields_word first.some, fileNames_word first.pieces]

end Expansion
end IPsecControl.Shell
