import IPsecControl.Proofs.Shell.Line

/-! Quotation and the shell. A quoted text is one word of a line, and the word expands to the text if and only
if no line break is in it: `escaped` puts a backslash in front of a line break too, and the shell takes
the two for a line that goes on. -/
namespace IPsecControl.Shell

theorem quote_spells (text : String) : Spells (quote text).toList (quotedWord (unbroken text.toList)) := by
  rw [quote, String.toList_ofList]
  exact .quoteChars text.toList

theorem quote_ne_nil (text : String) : (quote text).toList ≠ [] := by
  rw [quote, String.toList_ofList]
  exact List.cons_ne_nil _ _

/-- Everything inside quotes stays, be it no character at all. -/
theorem literal_quotedWord (cs : List Char) : Literal (quotedWord cs) where
  some := List.cons_ne_nil _ _
  pieces := by simp [quotedWord, Piece.isLiteral]

theorem expandAll_quotedWord (host : Host) (line : Nat) {fuel : Nat} {s : State} {cs : List Char}
    (enough : cs.length + 2 ≤ fuel) (stays : s.leaving = none) :
    expandAll host line fuel [quotedWord cs] s = ([String.ofList cs], s) := by
  have literal : ∀ w ∈ [quotedWord cs], Literal w :=
    List.forall_mem_singleton.mpr (literal_quotedWord cs)
  have short : ∀ w ∈ [quotedWord cs], w.length + [quotedWord cs].length ≤ fuel := by
    intro w among
    rw [List.mem_singleton.mp among, List.length_singleton, quotedWord, List.length_cons, List.length_map]
    exact enough
  rw [expandAll_literal host line literal short stays, List.map_singleton, wordText_quotedWord]

/-- Whatever follows it, a quoted text is read as it was written up to its last quote, and it is a word of its
own where a word may end. Nothing in it is left to expand: the word stands for the text without its line
breaks, which is the text if and only if there are none. -/
theorem quote_undone_iff (text : String) :
    let word := quotedWord (unbroken text.toList)
    (∀ rest, readWord .plain ((quote text).toList ++ rest) = putWord word (readWord .plain rest)) ∧
    (∀ fuel line rest, Ended rest → tokensWithin (fuel + 1) line ((quote text).toList ++ rest) =
      ⟨.word word, line + lineBreaks (quote text).toList⟩ ::
        tokensWithin fuel (line + lineBreaks (quote text).toList) rest) ∧
    ∀ (host : Host) (line fuel : Nat) (s : State), s.leaving = none → text.length + 2 ≤ fuel →
      expandAll host line fuel [word] s = ([String.ofList (unbroken text.toList)], s) ∧
      (expandAll host line fuel [word] s = ([text], s) ↔ '\n' ∉ text.toList) := by
  intro word
  have spelled := quote_spells text
  refine ⟨spelled.read_onto, ?_, ?_⟩
  · intro fuel line rest ended
    exact spelled.token (quote_ne_nil text) ended (descriptor?_quotedWord _ rest) fuel line
  · intro host line fuel s stays enough
    have short : (unbroken text.toList).length + 2 ≤ fuel := by
      have kept : (unbroken text.toList).length ≤ text.toList.length := List.length_filter_le _ _
      rw [String.length_toList] at kept
      omega
    have expanded := expandAll_quotedWord host line short stays
    refine ⟨expanded, ?_⟩
    rw [expanded, ← unbroken_eq_self_iff]
    constructor
    · intro same
      have same := congrArg String.toList (List.head_eq_of_cons_eq (congrArg Prod.fst same))
      rwa [String.toList_ofList] at same
    · intro whole
      rw [whole, String.ofList_toList]

theorem quote_undone_iff_before_pipe :
    Ended " | id".toList ∧
    tokensWithin 9 1 ((quote "$(reboot) \\\\$x").toList ++ " | id".toList) =
      ⟨.word (quotedWord "$(reboot) \\\\$x".toList), 1⟩ :: tokensWithin 8 1 " | id".toList ∧
    expandAll (fun _ => none) 1 20 [quotedWord "$(reboot) \\\\$x".toList] {} =
      (["$(reboot) \\\\$x"], {}) := by
  have ended : Ended " | id".toList := by
    rintro c ⟨⟩
    rfl
  obtain ⟨-, lexed, expands⟩ := quote_undone_iff "$(reboot) \\\\$x"
  have whole := (expands (fun _ => none) 1 20 {} rfl (by decide)).2
  exact ⟨ended, lexed 8 1 _ ended, whole.mpr (by decide)⟩

/-- Quoted, a text with a line break is another text to the shell. -/
theorem quoted_line_break_lost :
    (readWord .plain (quote "a\nb").toList).map (fun (word, rest) =>
      ((expandAll (fun _ => none) 1 9 [word] {}).1, rest)) = .ok (["ab"], []) ∧ "ab" ≠ "a\nb" := by
  decide +kernel

end IPsecControl.Shell
