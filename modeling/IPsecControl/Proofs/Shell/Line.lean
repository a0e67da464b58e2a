import IPsecControl.Proofs.Shell.Word

/-! Command lines of words. Words with blanks between them are the tokens of their line, and the line is one
command of these words if the first is no keyword. When that is the path of a program, running the line is
running the program on the texts of the other words. -/
namespace IPsecControl.Shell

/-! ### Tokens -/

section Tokens
variable {cs rest : List Char} {w : Word}

theorem operator?_eq_none {c : Char} (within : endsWord c = false) (rest : List Char) :
    operator? (c :: rest) = none := by
  simp only [endsWord, isBlank, Bool.or_eq_false_iff, beq_eq_false_iff_ne] at within
  have apart {a : Char} (other : c ≠ a) : ¬ a = c := fun same => other same.symm
  simp [operator?, operators, apart, within]

theorem Spells.token (spelled : Spells cs w) (some : cs ≠ []) (ended : Ended rest)
    (noNumber : descriptor? w rest = none) (fuel line : Nat) :
    tokensWithin (fuel + 1) line (cs ++ rest) =
      ⟨.word w, line + lineBreaks cs⟩ :: tokensWithin fuel (line + lineBreaks cs) rest := by
  have read := spelled.read ended
  obtain ⟨c, tail, rfl, within, noComment, noSplice⟩ := spelled.head some
  have taken : (c :: (tail ++ rest)).take ((tail ++ rest).length + 1 - rest.length) = c :: tail := by
    have size : (tail ++ rest).length + 1 - rest.length = (c :: tail).length := by
      simp only [List.length_append, List.length_cons]
      omega
    rw [size]
    exact List.take_left
  rw [List.cons_append] at read ⊢
  rw [tokensWithin]
  simp only [isBlank_eq_false within, noComment, noSplice, operator?_eq_none within, read, noNumber, taken]
  rfl

/-- Quotes keep a digit from being the number of a redirection. -/
theorem descriptor?_quotedWord (cs rest : List Char) : descriptor? (quotedWord cs) rest = none := by
  unfold descriptor?
  split
  next same => cases same
  next same => cases same
  next => rfl

end Tokens

/-- From a line on, a text is words with blanks between them, and ends in a line. Each word comes
with the line in which it ends. -/
inductive Row : Nat → List Char → List (Word × Nat) → Nat → Prop where
  | done {line : Nat} : Row line [] [] line
  | blank {line last : Nat} {cs : List Char} {ws : List (Word × Nat)} :
      Row line cs ws last → Row line (' ' :: cs) ws last
  | word {line last : Nat} {cs rest : List Char} {w : Word} {ws : List (Word × Nat)} :
      Spells cs w → cs ≠ [] → (∀ c ∈ rest.head?, c = ' ') → Row (line + lineBreaks cs) rest ws last →
      Row line (cs ++ rest) ((w, line + lineBreaks cs) :: ws) last

def rowTokens (ws : List (Word × Nat)) (last : Nat) : List Token :=
  ws.map (fun (w, line) => ⟨.word w, line⟩) ++ [⟨.finish, last⟩]

namespace Row
variable {line last fuel : Nat} {cs rest : List Char} {ws : List (Word × Nat)}

theorem plain (plain : cs.all isPlain = true) (some : cs ≠ []) (blank : ∀ c ∈ rest.head?, c = ' ')
    (row : Row line rest ws last) : Row line (cs ++ rest) ((plainWord cs, line) :: ws) last := by
  have whole : lineBreaks cs = 0 := by
    rw [lineBreaks, List.countP_eq_zero]
    intro c among broken
    rw [of_decide_eq_true broken] at among
    exact absurd (List.all_eq_true.mp plain _ among) (by decide)
  have spelled : Row line (cs ++ rest) ((plainWord cs, line + lineBreaks cs) :: ws) last := by
    apply Row.word (.of_plain plain) some blank
    rwa [whole, Nat.add_zero]
  rwa [whole, Nat.add_zero] at spelled

theorem quoted (text : List Char) (row : Row (line + lineBreaks (quoteChars text)) [] ws last) :
    Row line (quoteChars text) ((quotedWord (unbroken text), line + lineBreaks (quoteChars text)) :: ws) last := by
  have row := Row.word (.quoteChars text) (List.cons_ne_nil _ _) (by simp) row
  rwa [List.append_nil] at row

/-- Words of plain characters, each with a blank behind it, in front of a row. -/
theorem plains {front : List String}
    (chars : ∀ text ∈ front, text.toList ≠ [] ∧ text.toList.all isPlain = true)
    (row : Row line rest ws last) :
    Row line (front.flatMap (fun text => text.toList ++ [' ']) ++ rest)
      (front.map (fun text => (plainWord text.toList, line)) ++ ws) last := by
  induction front with
  | nil => exact row
  | cons text front ih =>
    obtain ⟨⟨some, first⟩, others⟩ := List.forall_mem_cons.mp chars
    rw [List.flatMap_cons, List.append_assoc, List.append_assoc]
    apply Row.plain first some
    · rintro c ⟨⟩
      rfl
    · exact .blank (ih others)

theorem tokensWithin_eq (row : Row line cs ws last) (enough : cs.length < fuel) :
    tokensWithin fuel line cs = rowTokens ws last := by
  induction row generalizing fuel with
  | done => cases fuel <;> rfl
  | blank _ ih =>
    obtain ⟨fuel, rfl⟩ := Nat.exists_eq_add_one_of_ne_zero (Nat.ne_zero_of_lt enough)
    exact ih (Nat.lt_of_succ_lt_succ enough)
  | @word line last cs rest w ws spelled some blank _ ih =>
    obtain ⟨fuel, rfl⟩ := Nat.exists_eq_add_one_of_ne_zero (Nat.ne_zero_of_lt enough)
    have ended : Ended rest := by
      intro c first
      rw [blank c first]
      rfl
    have noNumber : descriptor? w rest = none := by
      cases rest with
      | nil => rfl
      | cons c rest =>
        rw [blank c rfl]
        simp [descriptor?]
    rw [List.length_append] at enough
    have taken := List.length_pos_of_ne_nil some
    rw [spelled.token some ended noNumber, ih (by omega)]
    rfl

theorem tokens_eq (row : Row line cs ws last) : tokens line cs = rowTokens ws last :=
  row.tokensWithin_eq (Nat.lt_succ_self _)

theorem literal (row : Row line cs ws last) : ∀ w ∈ ws.map (·.1), Literal w := by
  induction row with
  | done => exact List.forall_mem_nil _
  | blank _ ih => exact ih
  | word spelled some _ _ ih => exact List.forall_mem_cons.mpr ⟨spelled.literal some, ih⟩

/-- A line that is `n` characters long is at most `n` words of at most `n` pieces. -/
theorem size_le (row : Row line cs ws last) :
    ws.length ≤ cs.length ∧ ∀ w ∈ ws.map (·.1), w.length ≤ cs.length := by
  induction row with
  | done => exact ⟨Nat.le_refl _, List.forall_mem_nil _⟩
  | blank _ ih =>
    obtain ⟨few, short⟩ := ih
    exact ⟨Nat.le_succ_of_le few, fun w among => Nat.le_succ_of_le (short w among)⟩
  | word spelled some _ _ ih =>
    obtain ⟨few, short⟩ := ih
    have taken := List.length_pos_of_ne_nil some
    simp only [List.length_append, List.length_cons]
    refine ⟨by omega, List.forall_mem_cons.mpr ⟨Nat.le_add_right_of_le spelled.length_le, ?_⟩⟩
    intro w among
    exact Nat.le_add_left_of_le (short w among)

end Row

/-! ### Parsing -/

namespace Script
variable {first : Word} {line : Nat}

theorem simpleCommand_words (ws : List (Word × Nat)) (last : Nat) {fuel : Nat} (c : SimpleCommand)
    (enough : ws.length < fuel) :
    simpleCommand fuel c (rowTokens ws last) =
      .ok ({ c with words := c.words ++ ws.map (·.1) }, [⟨.finish, last⟩]) := by
  induction ws generalizing fuel c with
  | nil =>
    obtain ⟨fuel, rfl⟩ := Nat.exists_eq_add_one_of_ne_zero (Nat.ne_zero_of_lt enough)
    rw [List.map_nil, List.append_nil]
    rfl
  | cons w ws ih =>
    obtain ⟨fuel, rfl⟩ := Nat.exists_eq_add_one_of_ne_zero (Nat.ne_zero_of_lt enough)
    have later := ih { c with words := c.words ++ [w.1] } (Nat.lt_of_succ_lt_succ enough)
    rw [List.append_assoc] at later
    exact later

variable (noKeyword : Token.keyword? ⟨.word first, line⟩ = none) (ws : List (Word × Nat)) (last : Nat)
include noKeyword

theorem startsWith_word (name : String) :
    startsWith name (rowTokens ((first, line) :: ws) last) = false := by
  simp [startsWith, rowTokens, Token.is, noKeyword]

omit noKeyword in
theorem startsWith_finish (name : String) : startsWith name [⟨.finish, last⟩] = false := rfl

theorem command_words (fuel : Nat) :
    command (fuel + 1) (rowTokens ((first, line) :: ws) last) =
      .ok (.simple { line, words := first :: ws.map (·.1) }, [⟨.finish, last⟩]) := by
  have enough : ((first, line) :: ws).length < (rowTokens ((first, line) :: ws) last).length := by
    simp [rowTokens]
  have read := simpleCommand_words ((first, line) :: ws) last { line } enough
  have head : ((rowTokens ((first, line) :: ws) last).head?.map (·.line)).getD 1 = line := rfl
  have plain : ((rowTokens ((first, line) :: ws) last).head?.any (·.keyword?.isSome)) = false := by
    simp [rowTokens, noKeyword]
  rw [command]
  simp only [startsWith_word noKeyword, head, plain, read]
  rfl

theorem firstLine_words :
    firstLine (rowTokens ((first, line) :: ws) last) =
      .ok (.simple { line, words := first :: ws.map (·.1) }, [⟨.finish, last⟩]) := by
  have begins : isFinished (rowTokens ((first, line) :: ws) last) = false := rfl
  have ends : isFinished [⟨.finish, last⟩] = true := rfl
  obtain ⟨fuel, same⟩ : ∃ fuel, 6 * (rowTokens ((first, line) :: ws) last).length + 6 = fuel + 6 :=
    ⟨_, rfl⟩
  rw [firstLine, same]
  simp [Script.line, entry, pipeline, pipes, conditions, after, startsWith_word noKeyword, begins, ends,
    startsWith_finish, command_words noKeyword, bind, Except.bind, pure, Except.pure]

end Script

/-! ### Running -/

theorem builtin?_path {name : String} (path : '/' ∈ name.toList) (line : Nat) (args : List String) :
    builtin? line name args = none := by
  unfold builtin?
  split
  all_goals first | rfl | exact absurd path (by decide)

theorem not_special_path {name : String} (path : '/' ∈ name.toList) :
    specialCommands.contains name = false := by
  have apart : ∀ special ∈ specialCommands, '/' ∉ special.toList := by decide
  rw [← Bool.not_eq_true, List.contains_iff_mem]
  intro special
  exact apart name special path

theorem assignment?_literal {w : Word} (literal : w.all Piece.isLiteral = true) :
    assignment? w = none := by
  unfold assignment?
  extract_lets name text
  split
  next rest _ =>
    have among : Piece.char '=' false ∈ w := List.mem_of_mem_drop (rest ▸ List.mem_cons_self)
    exact absurd (List.all_eq_true.mp literal _ among) (by decide)
  next => rfl

/-- What a shell makes of a program that it ran last: the status is a byte, and a program that was killed
is told of. -/
def Finished.throughShell (f : Finished) : Finished :=
  match f.ending with
  | .exited code => { f with ending := .exited (code % 256) }
  | .killed signal => {
      ending := .exited ((128 + signal) % 256)
      stdout := f.stdout
      stderr := f.stderr ++ ((killedText? signal).map fun text => Text.Utf8.bytes (text ++ "\n")).getD [] }

section Running
variable {host : Host} {fuel line last : Nat} {program : Word} {args : List Word} {s : State}
variable {f : Finished} {files : List (String × Bytes)}

theorem runPlain_path {name : String} {args : List String} (path : '/' ∈ name.toList)
    (found : host (name :: args) = some f) :
    runPlain host line (fuel + 2) name args s =
      ((s.print f.stdout).write 2 f.stderr).adopt f.ending := by
  simp only [runPlain, builtin?_path path]
  split
  case h_10 => simp [runProgram, found]
  all_goals exact absurd path (by decide)

theorem runSimple_path (literal : ∀ w ∈ program :: args, Literal w)
    (path : '/' ∈ (wordText program).toList)
    (enough : ∀ w ∈ program :: args, w.length + (program :: args).length ≤ fuel + 3)
    (fresh : s.substituted = 0) (stays : s.leaving = none) (quiet : s.has 'x' = false)
    (noFunction : s.functions.lookup (wordText program) = none)
    (found : host ((program :: args).map wordText) = some f) :
    runSimple host (fuel + 4) { line, words := program :: args } s =
      { ((s.print f.stdout).write 2 f.stderr).adopt f.ending with descriptors := s.descriptors } := by
  have same : { s with substituted := 0 } = s := by rw [← fresh]
  have here : s.leaving.isSome = false := by
    rw [stays]
    rfl
  obtain ⟨first, -⟩ := List.forall_mem_cons.mp literal
  have noAssignment : (program :: args).takeWhile (fun w => (assignment? w).isSome) = [] := by
    simp [assignment?_literal first.pieces]
  have expanded := expandAll_literal host line literal enough stays
  rw [List.map_cons] at expanded found
  have ran : runPlain host line (fuel + 2) (wordText program) (args.map wordText) s =
      ((s.print f.stdout).write 2 f.stderr).adopt f.ending := runPlain_path path found
  rw [runSimple]
  simp only [noAssignment, List.filterMap_nil, List.length_nil, List.drop_zero, same, expanded]
  simp only [not_special_path path, redirectAll, assignAll, quiet]
  simp [runCommand, noFunction, ran, here]

theorem run_simple {c : SimpleCommand} (stays : s.leaving = none) (runs : s.has 'n' = false) :
    run host (fuel + 1) (.simple c) s = answer host c.line fuel (runSimple host fuel c s).mind := by
  rw [run, stays, runs]
  rfl

theorem runTokens_line {t : Token} {ts rest : List Token} {script : Script} (stays : s.leaving = none)
    (begins : t.lexeme ≠ .finish) (noBreak : t.is "\n" = false)
    (parsed : Script.firstLine (t :: ts) = .ok (script, rest)) :
    runTokens host (fuel + 1) (t :: ts) s = runTokens host fuel rest (run host fuel script s) := by
  rw [runTokens, stays, noBreak, parsed]
  simp [begins]

theorem runTokens_finish (s : State) : runTokens host fuel [⟨.finish, line⟩] s = s := by
  cases fuel with
  | zero => rfl
  | succ fuel => simp [runTokens]

theorem adopt_start (files : List (String × Bytes)) (f : Finished) :
    ∃ status, f.throughShell = ⟨.exited (status % 256), f.stdout, f.throughShell.stderr⟩ ∧
      ((({ files } : State).print f.stdout).write 2 f.stderr).adopt f.ending =
        { files, status, kept := [f.stdout, f.throughShell.stderr] } := by
  cases f with
  | mk ending stdout stderr =>
    cases ending with
    | exited code =>
      refine ⟨code % 256, ?_, rfl⟩
      rw [Nat.mod_mod]
      rfl
    | killed signal =>
      refine ⟨128 + signal, rfl, ?_⟩
      simp only [State.adopt, Finished.throughShell]
      cases killedText? signal with
      | none =>
        rw [Option.map_none, Option.getD_none, List.append_nil]
        rfl
      | some text => rfl

/-- A line of words that begins with the path of a program runs that program with the texts of the
other words, and does nothing else. -/
theorem execute_row {text : String} {args : List (Word × Nat)}
    (row : Row 1 text.toList ((program, 1) :: args) last) (path : '/' ∈ (wordText program).toList)
    (noKeyword : Token.keyword? ⟨.word program, 1⟩ = none) (noOption : optionFault? text = none)
    (found : host ((program :: args.map (·.1)).map wordText) = some f) :
    execute host files text = f.throughShell := by
  obtain ⟨status, told, adopted⟩ := adopt_start files f
  obtain ⟨few, short⟩ := row.size_le
  obtain ⟨fuel, deep, enough⟩ : ∃ fuel, depthOf text = fuel + 9 ∧ 2 * text.length ≤ fuel := by
    refine ⟨20 * text.length + 19991, rfl, ?_⟩
    omega
  have ran : runSimple host (fuel + 6) { words := program :: args.map (·.1) } { files } =
      { files, status, kept := [f.stdout, f.throughShell.stderr] } := by
    refine (runSimple_path row.literal path ?_ rfl rfl rfl rfl found).trans ?_
    · intro w among
      have := short w among
      simp only [List.length_cons, List.length_map, String.length_toList] at few this ⊢
      omega
    · rw [adopted]
  have parsed := Script.firstLine_words noKeyword args last
  have noBreak : Token.is ⟨.word program, 1⟩ "\n" = false := by simp [Token.is, noKeyword]
  have ended : runText host 1 (fuel + 9) text.toList { files } =
      { files, status, kept := [f.stdout, f.throughShell.stderr] } := by
    rw [runText, row.tokens_eq]
    simp only [rowTokens, List.map_cons, List.cons_append] at parsed ⊢
    rw [runTokens_line rfl Lexeme.noConfusion noBreak parsed, runTokens_finish, run_simple rfl rfl, ran]
    rfl
  rw [execute, noOption, deep, ended, told]
  rfl

end Running
end IPsecControl.Shell
