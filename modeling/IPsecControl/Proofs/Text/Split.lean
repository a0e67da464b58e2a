import IPsecControl.Text.Split

/-! The parts of a text between separators: one more than there are separators, and none of them holds one. -/
namespace IPsecControl.Text
variable {separator : Char}

theorem splitOn_cons (separator c : Char) (cs : List Char) :
    (c :: cs).splitOn separator = if c = separator then [] :: cs.splitOn separator
      else (cs.splitOn separator).modifyHead (c :: ·) := by
  rw [List.splitOn_eq_splitOnP, List.splitOnP_cons_eq_if_modifyHead]
  simp only [beq_iff_eq, List.splitOn_eq_splitOnP]

theorem split_eq (separator : Char) (cs : List Char) : split separator cs = cs.splitOn separator := by
  induction cs with
  | nil => rfl
  | cons c cs ih =>
    rw [split, splitOn_cons, ih]
    split
    next => rfl
    next =>
      cases parts : cs.splitOn separator with
      | nil => exact absurd parts (List.splitOn_ne_nil separator cs)
      | cons part rest => rfl

theorem length_splitOn (separator : Char) (cs : List Char) :
    (cs.splitOn separator).length = cs.count separator + 1 := by
  induction cs with
  | nil => rfl
  | cons c cs ih =>
    rw [splitOn_cons, List.count_cons]
    split
    next same => rw [List.length_cons, ih, if_pos (beq_iff_eq.mpr same)]
    next other => rw [List.length_modifyHead, ih, if_neg (mt beq_iff_eq.mp other), Nat.add_zero]

theorem not_mem_of_mem_splitOn {cs part : List Char} (among : part ∈ cs.splitOn separator) :
    separator ∉ part := by
  induction cs generalizing part with
  | nil =>
    rw [List.mem_singleton.mp among]
    exact List.not_mem_nil
  | cons c cs ih =>
    rw [splitOn_cons] at among
    split at among
    next =>
      obtain rfl | among := List.mem_cons.mp among
      · exact List.not_mem_nil
      · exact ih among
    next other =>
      cases parts : cs.splitOn separator with
      | nil => exact absurd parts (List.splitOn_ne_nil separator cs)
      | cons first rest =>
        rw [parts] at among ih
        obtain rfl | among := List.mem_cons.mp among
        · intro member
          obtain rfl | member := List.mem_cons.mp member
          · exact other rfl
          · exact ih List.mem_cons_self member
        · exact ih (List.mem_cons_of_mem first among)

end IPsecControl.Text
