import IPsecControl.Probe.Ping
import IPsecControl.Proofs.Shell.Line
import IPsecControl.Proofs.Text.Numeral

/-! The command of a probe. Whatever the target is, the shell reads six words and runs one program. -/
namespace IPsecControl.Probe
open Shell

theorem digits_plain (n : Nat) : (Text.digits n).all isPlain = true := by
  have digit {d : Nat} (small : d < 10) : [Text.digitChar d].all isPlain = true := by
    have all : ∀ d < 10, [Text.digitChar d].all isPlain = true := by decide
    exact all d small
  unfold Text.digits
  induction n using Text.numeral_induction (b := 8) with
  | one d small => exact digit small
  | more n ds d _ _ small ih => rw [List.all_append, ih, digit small, Bool.and_true]

/-- The words in front of the target. -/
def pingFront (deadline : Duration) (count : Nat) : List String :=
  [pingProgram, "-c", Text.decimal count, "-w", Text.decimal (max 1 deadline.seconds)]

variable (deadline : Duration) (target : String) (count : Nat)

/-- The words of the command. The last one is the target without its line breaks, all of it in quotes. -/
def pingWords : List Word :=
  (pingFront deadline count).map (plainWord ·.toList) ++ [quotedWord (unbroken target.toList)]

/-- The words and their lines: those in front of the target stand in the first one. -/
def pingRow (last : Nat) : List (Word × Nat) :=
  (pingFront deadline count).map (fun text => (plainWord text.toList, 1)) ++
    [(quotedWord (unbroken target.toList), last)]

def pingArguments : List String :=
  pingFront deadline count ++ [String.ofList (unbroken target.toList)]

theorem pingRow_words (last : Nat) :
    (pingRow deadline target count last).map (·.1) = pingWords deadline target count := by
  simp [pingRow, pingWords]

theorem pingWords_text :
    (pingWords deadline target count).map wordText = pingArguments deadline target count := by
  simp [pingWords, pingArguments, pingFront, wordText_plainWord, wordText_quotedWord]

theorem pingFront_plain : ∀ text ∈ pingFront deadline count,
    text.toList ≠ [] ∧ text.toList.all isPlain = true := by
  have decimal (n : Nat) : (Text.decimal n).toList ≠ [] ∧ (Text.decimal n).toList.all isPlain = true := by
    rw [Text.decimal, String.toList_ofList]
    exact ⟨Text.digitsOnto_ne_nil n, digits_plain n⟩
  simp only [pingFront, List.forall_mem_cons]
  exact ⟨by decide, by decide, decimal _, by decide, decimal _, List.forall_mem_nil _⟩

theorem pingCommand_chars : (pingCommand deadline target count).toList =
    (pingFront deadline count).flatMap (fun text => text.toList ++ [' ']) ++ quoteChars target.toList := by
  simp [pingCommand, pingFront, quote, Nat.max_comm]

theorem pingCommand_row : ∃ last,
    Row 1 (pingCommand deadline target count).toList (pingRow deadline target count last) last := by
  rw [pingCommand_chars]
  exact ⟨_, .plains (pingFront_plain deadline count) (.quoted target.toList .done)⟩

theorem pingProgram_no_keyword : Token.keyword? ⟨.word (plainWord pingProgram.toList), 1⟩ = none := by
  decide

theorem pingCommand_no_option : optionFault? (pingCommand deadline target count) = none := by
  rw [optionFault?, pingCommand_chars]
  rfl

/-- Whatever the target is, the command is one simple command of six words, of which the last is the target
in quotes. They expand to six texts, and running the command is running `ping` on them. -/
theorem ping_command_words :
    (∃ last, tokens 1 (pingCommand deadline target count).toList =
        rowTokens (pingRow deadline target count last) last ∧
      Script.firstLine (tokens 1 (pingCommand deadline target count).toList) =
        .ok (.simple { words := pingWords deadline target count }, [⟨.finish, last⟩])) ∧
    (∀ (host : Host) (line fuel : Nat) (s : State), s.leaving = none →
      (pingCommand deadline target count).length + 6 ≤ fuel →
      expandAll host line fuel (pingWords deadline target count) s =
        (pingArguments deadline target count, s)) ∧
    ∀ (host : Host) (files : List (String × Bytes)) (f : Finished),
      host (pingArguments deadline target count) = some f →
      execute host files (pingCommand deadline target count) = f.throughShell := by
  obtain ⟨last, row⟩ := pingCommand_row deadline target count
  have words := pingRow_words deadline target count last
  refine ⟨⟨last, row.tokens_eq, ?_⟩, ?_, ?_⟩
  · rw [row.tokens_eq, ← words]
    exact Script.firstLine_words pingProgram_no_keyword _ last
  · intro host line fuel s stays enough
    rw [← pingWords_text]
    apply expandAll_literal host line _ _ stays
    · rw [← words]
      exact row.literal
    · intro w among
      obtain ⟨-, short⟩ := row.size_le
      rw [words, String.length_toList] at short
      exact Nat.le_trans (Nat.add_le_add_right (short w among) 6) enough
  · intro host files f found
    apply execute_row row _ pingProgram_no_keyword (pingCommand_no_option deadline target count)
    · rw [← pingWords_text, ← words] at found
      exact found
    · rw [wordText_plainWord]
      decide

/-- A target that would end its quotes, run commands and begin a pipeline. -/
def hostileTarget : String := "10.1.0.2\"; reboot; $(id) \\\n| \x60id\x60"

def hostileArguments : List String :=
  ["/bin/ping", "-c", "5", "-w", "1", "10.1.0.2\"; reboot; $(id) \\| \x60id\x60"]

/-- A machine that knows one command line. -/
def singleHost : Host := fun argv => if argv = hostileArguments then some ⟨.exited 1, [33], [63]⟩ else none

theorem ping_command_words_hostile :
    expandAll singleHost 1 90 (pingWords (.ofMillis 500) hostileTarget 5) {} = (hostileArguments, {}) ∧
    singleHost (pingArguments (.ofMillis 500) hostileTarget 5) = some ⟨.exited 1, [33], [63]⟩ ∧
    execute singleHost [] (pingCommand (.ofMillis 500) hostileTarget 5) = ⟨.exited 1, [33], [63]⟩ := by
  have same : pingArguments (.ofMillis 500) hostileTarget 5 = hostileArguments := by decide +kernel
  have found : singleHost (pingArguments (.ofMillis 500) hostileTarget 5) =
      some ⟨.exited 1, [33], [63]⟩ := if_pos same
  obtain ⟨-, expands, runs⟩ := ping_command_words (.ofMillis 500) hostileTarget 5
  refine ⟨?_, found, runs singleHost [] _ found⟩
  rw [expands singleHost 1 90 {} rfl (by decide +kernel), same]

end IPsecControl.Probe
