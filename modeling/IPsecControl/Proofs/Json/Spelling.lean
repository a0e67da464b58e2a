import IPsecControl.Proofs.Json.Grammar

/-! Strings in any spelling. A string is read as its characters if every surrogate has its other half,
and it is read over in any case. -/
namespace IPsecControl.Json
open Reader Text

theorem Reader.bind_error {α β : Type} {m : Reader α} {f : α → Reader β} {bytes : Bytes} {e : Failure}
    (failed : m bytes = .error e) : (m >>= f) bytes = .error e := by
  change (m bytes >>= fun (a, rest) => f a rest) = _
  rw [failed]
  rfl

theorem Reader.discard_ok {α : Type} {m : Reader α} {a : α} {bytes rest : Bytes}
    (read : m bytes = .ok (a, rest)) : discard m bytes = .ok ((), rest) := by
  change (m bytes >>= fun (_, rest) => .ok ((), rest)) = _
  rw [read]
  rfl

/-- Bytes that stand for themselves are taken one by one. -/
theorem stringBytes_plain {bs : Bytes} (plain : ∀ b ∈ bs, escapedByte b = [b]) (fuel : Nat)
    (read rest : Bytes) :
    stringBytes (bs.length + fuel) read (bs ++ rest) = stringBytes fuel (bs.reverse ++ read) rest := by
  induction bs generalizing read with
  | nil => rw [List.length_nil, Nat.zero_add]; rfl
  | cons b bs ih =>
    obtain ⟨first, plain⟩ := List.forall_mem_cons.mp plain
    have step := stringBytes_escapedByte (bs.length + fuel) read b (bs ++ rest)
    rw [first] at step
    rw [List.length_cons, Nat.add_right_comm, List.cons_append, List.reverse_cons, List.append_assoc,
      ← ih plain]
    exact step

/-- No byte of a shown character needs an escape. -/
theorem shown_escapedByte {c : Char} (shown : isShown c = true) :
    ∀ b ∈ String.utf8EncodeChar c, escapedByte b = [b] := by
  have ascii : ∀ n < 0x80, 32 ≤ n → n ≠ 34 → n ≠ 92 →
      escapedByte (UInt8.ofNat n) = [UInt8.ofNat n] := by decide
  simp only [isShown, Bool.and_eq_true, decide_eq_true_eq, bne_iff_ne] at shown
  obtain ⟨⟨low, quotation⟩, backslash⟩ := shown
  by_cases single : c.utf8Size = 1
  · have small : c.toNat ≤ 127 := Char.utf8Size_eq_one_iff.mp single
    rw [String.utf8EncodeChar_eq_singleton single]
    refine List.forall_mem_singleton.mpr (ascii c.toNat (by omega) low ?_ ?_)
    · exact fun same => quotation (Char.toNat_inj.mp same)
    · exact fun same => backslash (Char.toNat_inj.mp same)
  · obtain ⟨b, encoded, -⟩ | high := Utf8.char_bytes c
    · exact absurd (String.length_utf8EncodeChar c ▸ encoded ▸ rfl) single
    · exact fun b member => escapedByte_high (high b member)

theorem stringBytes_escape {fuel : Nat} {read rest rest' bytes : Bytes}
    (escaped : escape rest = .ok (bytes, rest')) :
    stringBytes (fuel + 1) read (92 :: rest) = stringBytes fuel (bytes.reverse ++ read) rest' := by
  rw [stringBytes, bind_ok (take?_cons 92 rest)]
  simp only [show ¬ ((92 : UInt8) = 34) by decide, if_false, if_true]
  rw [bind_ok escaped]

theorem stringBytes_escape_error {fuel : Nat} {read rest : Bytes} {e : Failure}
    (failed : escape rest = .error e) : stringBytes (fuel + 1) read (92 :: rest) = .error e := by
  rw [stringBytes, bind_ok (take?_cons 92 rest)]
  simp only [show ¬ ((92 : UInt8) = 34) by decide, if_false, if_true]
  rw [bind_error failed]

theorem codeUnit_cons {a b c d : UInt8} {n : Nat} (known : fourHex? a b c d = some n) (rest : Bytes) :
    codeUnit (a :: b :: c :: d :: rest) = .ok (n, rest) := by
  rw [codeUnit, known]

theorem unescape?_apart {letter b : UInt8} (known : unescape? letter = some b) : letter ≠ 117 := by
  rintro rfl
  contradiction

theorem escape_letter {letter b : UInt8} (known : unescape? letter = some b) (rest : Bytes) :
    escape (letter :: rest) = .ok ([b], rest) := by
  have apart := unescape?_apart known
  rw [escape, bind_ok (required_cons letter rest)]
  simp only [if_neg apart, known]
  rfl

/-- A code unit that needs no other half is its character. -/
theorem escapedChar_single {a b c d : UInt8} {n : Nat} (known : fourHex? a b c d = some n)
    (alone : isTrailing n = false ∧ isLeading n = false) (rest : Bytes) :
    escapedChar (a :: b :: c :: d :: rest) = .ok (Char.ofNat n, rest) := by
  rw [escapedChar, bind_ok (codeUnit_cons known rest)]
  simp only [alone, Bool.false_eq_true, if_false]
  rfl

theorem escapedChar_trailing {a b c d : UInt8} {n : Nat} (known : fourHex? a b c d = some n)
    (trailing : isTrailing n = true) (rest : Bytes) :
    ∃ e, escapedChar (a :: b :: c :: d :: rest) = .error e := by
  rw [escapedChar, bind_ok (codeUnit_cons known rest)]
  simp only [trailing, if_true]
  exact ⟨_, rfl⟩

theorem escapedChar_pair {a b c d a' b' c' d' : UInt8} {n m : Nat} (known : fourHex? a b c d = some n)
    (known' : fourHex? a' b' c' d' = some m) (leading : isTrailing n = false ∧ isLeading n = true)
    (trailing : isTrailing m = true) (rest : Bytes) :
    escapedChar (a :: b :: c :: d :: 92 :: 117 :: a' :: b' :: c' :: d' :: rest) =
      .ok (pairChar n m, rest) := by
  rw [escapedChar, bind_ok (codeUnit_cons known _)]
  simp only [leading, Bool.false_eq_true, if_false, if_true]
  rw [bind_ok (required_cons 92 _)]
  simp only [ne_eq, not_true_eq_false, if_false]
  rw [bind_ok (required_cons 117 _)]
  simp only [not_true_eq_false, if_false]
  rw [bind_ok (codeUnit_cons known' rest)]
  simp only [trailing, if_true]
  rfl

/-- No other half follows. -/
def Lone : List Piece → Prop
  | .unit _ _ _ _ m _ :: _ => isTrailing m = false
  | _ => True

theorem escapedChar_lone {a b c d : UInt8} {n : Nat} (known : fourHex? a b c d = some n)
    (leading : isTrailing n = false ∧ isLeading n = true) {ps : List Piece} (lone : Lone ps)
    (tail : Bytes) :
    ∃ e, escapedChar (a :: b :: c :: d :: (ps.flatMap Piece.bytes ++ 34 :: tail)) = .error e := by
  rw [escapedChar, bind_ok (codeUnit_cons known _)]
  simp only [leading, Bool.false_eq_true, if_false, if_true]
  cases ps with
  | nil => exact ⟨_, rfl⟩
  | cons p ps =>
    cases p with
    | plain c shown =>
      obtain ⟨first, later, encoded, -⟩ := Utf8.next_char c
      have apart : first ≠ 92 := by
        rintro rfl
        have plain := shown_escapedByte shown 92 (encoded ▸ List.mem_cons_self)
        exact absurd plain (by decide)
      rw [List.flatMap_cons, Piece.bytes, encoded, List.cons_append, List.cons_append,
        bind_ok (required_cons first _)]
      simp only [if_pos apart]
      exact ⟨_, rfl⟩
    | short letter b known =>
      have apart : letter ≠ 117 := unescape?_apart known
      rw [List.flatMap_cons, Piece.bytes, List.cons_append, List.cons_append,
        bind_ok (required_cons 92 _)]
      simp only [ne_eq, not_true_eq_false, if_false]
      rw [List.cons_append, List.cons_append, bind_ok (required_cons letter _)]
      simp only [if_pos apart]
      exact ⟨_, rfl⟩
    | unit a b c d m known =>
      have single : isTrailing m = false := lone
      rw [List.flatMap_cons, Piece.bytes]
      simp only [List.cons_append, List.nil_append]
      rw [bind_ok (required_cons 92 _)]
      simp only [ne_eq, not_true_eq_false, if_false]
      rw [bind_ok (required_cons 117 _)]
      simp only [not_true_eq_false, if_false]
      rw [bind_ok (codeUnit_cons known _)]
      simp only [single, Bool.false_eq_true, if_false]
      exact ⟨_, rfl⟩

theorem escape_unit {rest rest' : Bytes} {c : Char} (read : escapedChar rest = .ok (c, rest')) :
    escape (117 :: rest) = .ok (String.utf8EncodeChar c, rest') := by
  have single : Utf8.bytes (String.singleton c) = String.utf8EncodeChar c := by
    rw [Utf8.bytes_eq_flatMap, String.toList_singleton, List.flatMap_singleton]
  rw [escape, bind_ok (required_cons 117 _)]
  simp only [if_true]
  rw [bind_ok read, single]
  rfl

theorem escape_unit_error {rest : Bytes} {e : Failure} (failed : escapedChar rest = .error e) :
    escape (117 :: rest) = .error e := by
  rw [escape, bind_ok (required_cons 117 _)]
  simp only [if_true]
  rw [bind_error failed]

/-- A string is read onto what was read before it, or not at all. -/
def Spells (cs? : Option (List Char)) (read tail : Bytes) (r : Except Failure (Bytes × Bytes)) : Prop :=
  match cs? with
  | some cs => r = .ok (read.reverse ++ cs.flatMap String.utf8EncodeChar, tail)
  | none => ∃ e, r = .error e

theorem Spells.cons {cs? : Option (List Char)} {c : Char} {read tail : Bytes}
    {r : Except Failure (Bytes × Bytes)}
    (spells : Spells cs? ((String.utf8EncodeChar c).reverse ++ read) tail r) :
    Spells (cs?.map (c :: ·)) read tail r := by
  cases cs? with
  | none => exact spells
  | some cs =>
    rw [Spells, List.reverse_append, List.reverse_reverse, List.append_assoc] at spells
    exact spells

/-- A short escape is an ASCII character. -/
theorem unescape?_ascii {letter b : UInt8} (known : unescape? letter = some b) : b.toNat < 0x80 := by
  unfold unescape? at known
  repeat' split at known
  all_goals cases known
  all_goals decide

theorem short_append {letter b : UInt8} (known : unescape? letter = some b) (ps : List Piece)
    (tail : Bytes) : (Piece.short letter b known :: ps).flatMap Piece.bytes ++ tail =
      92 :: letter :: (ps.flatMap Piece.bytes ++ tail) := rfl

theorem unit_append {a b c d : UInt8} {n : Nat} (known : fourHex? a b c d = some n) (ps : List Piece)
    (tail : Bytes) : (Piece.unit a b c d n known :: ps).flatMap Piece.bytes ++ tail =
      92 :: 117 :: a :: b :: c :: d :: (ps.flatMap Piece.bytes ++ tail) := rfl

theorem stringBytes_pieces (ps : List Piece) (read tail : Bytes) {fuel : Nat}
    (enough : (ps.flatMap Piece.bytes).length < fuel) :
    Spells (chars? ps) read tail (stringBytes fuel read (ps.flatMap Piece.bytes ++ 34 :: tail)) := by
  -- The cases are those of the characters: a leading surrogate is settled with the piece behind it.
  fun_induction chars? ps generalizing read fuel with
  | case1 =>
    obtain ⟨fuel, rfl⟩ := Nat.exists_eq_succ_of_ne_zero (Nat.ne_of_gt enough)
    rw [List.flatMap_nil, List.nil_append, stringBytes, bind_ok (take?_cons 34 tail)]
    simp only [if_true, Spells, List.flatMap_nil, List.append_nil]
    rfl
  | case2 c shown ps ih =>
    rw [List.flatMap_cons, List.length_append] at enough
    obtain ⟨fuel, rfl⟩ := Nat.exists_eq_add_of_le (Nat.le_of_lt (Nat.lt_of_add_right_lt enough))
    rw [List.flatMap_cons, Piece.bytes, List.append_assoc, stringBytes_plain (shown_escapedByte shown)]
    exact (ih _ (Nat.lt_of_add_lt_add_left enough)).cons
  | case3 letter b known ps ih =>
    change (ps.flatMap Piece.bytes).length + 2 < fuel at enough
    obtain ⟨fuel, rfl⟩ := Nat.exists_eq_succ_of_ne_zero (Nat.ne_of_gt (Nat.zero_lt_of_lt enough))
    have single := Utf8.ascii_char (unescape?_ascii known)
    rw [short_append, stringBytes_escape (escape_letter known _), ← single]
    exact (ih _ (by omega)).cons
  | case4 a b c d n known ps trailing =>
    obtain ⟨fuel, rfl⟩ := Nat.exists_eq_succ_of_ne_zero (Nat.ne_of_gt (Nat.zero_lt_of_lt enough))
    obtain ⟨e, failed⟩ := escapedChar_trailing known trailing (ps.flatMap Piece.bytes ++ 34 :: tail)
    rw [unit_append, stringBytes_escape_error (escape_unit_error failed)]
    exact ⟨e, rfl⟩
  | case5 a b c d n known single leading a' b' c' d' m known' ps trailing ih =>
    change (ps.flatMap Piece.bytes).length + 12 < fuel at enough
    obtain ⟨fuel, rfl⟩ := Nat.exists_eq_succ_of_ne_zero (Nat.ne_of_gt (Nat.zero_lt_of_lt enough))
    have first := Bool.eq_false_iff.mpr single
    have pair := escapedChar_pair known known' ⟨first, leading⟩ trailing
      (ps.flatMap Piece.bytes ++ 34 :: tail)
    rw [unit_append, unit_append, stringBytes_escape (escape_unit pair)]
    exact (ih _ (by omega)).cons
  | case6 a b c d n known single leading a' b' c' d' m known' ps lone =>
    obtain ⟨fuel, rfl⟩ := Nat.exists_eq_succ_of_ne_zero (Nat.ne_of_gt (Nat.zero_lt_of_lt enough))
    have first := Bool.eq_false_iff.mpr single
    have lone : Lone (.unit a' b' c' d' m known' :: ps) := Bool.eq_false_iff.mpr lone
    obtain ⟨e, failed⟩ := escapedChar_lone known ⟨first, leading⟩ lone tail
    rw [unit_append, stringBytes_escape_error (escape_unit_error failed)]
    exact ⟨e, rfl⟩
  | case7 a b c d n known ps single leading other =>
    obtain ⟨fuel, rfl⟩ := Nat.exists_eq_succ_of_ne_zero (Nat.ne_of_gt (Nat.zero_lt_of_lt enough))
    have first := Bool.eq_false_iff.mpr single
    have lone : Lone ps := by
      unfold Lone
      split
      next => exact absurd rfl (other _ _ _ _ _ _ _)
      next => trivial
    obtain ⟨e, failed⟩ := escapedChar_lone known ⟨first, leading⟩ lone tail
    rw [unit_append, stringBytes_escape_error (escape_unit_error failed)]
    exact ⟨e, rfl⟩
  | case8 a b c d n known ps single alone ih =>
    change (ps.flatMap Piece.bytes).length + 6 < fuel at enough
    obtain ⟨fuel, rfl⟩ := Nat.exists_eq_succ_of_ne_zero (Nat.ne_of_gt (Nat.zero_lt_of_lt enough))
    have plain := escapedChar_single known
      ⟨Bool.eq_false_iff.mpr single, Bool.eq_false_iff.mpr alone⟩ (ps.flatMap Piece.bytes ++ 34 :: tail)
    rw [unit_append, stringBytes_escape (escape_unit plain)]
    exact (ih _ (by omega)).cons

theorem length_lt_text (ps : List Piece) (tail : Bytes) :
    (ps.flatMap Piece.bytes).length < (ps.flatMap Piece.bytes ++ 34 :: tail).length + 1 := by
  rw [List.length_append]
  omega

/-- A string is read as its text behind its opening quote. -/
theorem readText_pieces {ps : List Piece} {s : String} (spelled : pieceText? ps = some s) (tail : Bytes) :
    readText (ps.flatMap Piece.bytes ++ 34 :: tail) = .ok (s, tail) := by
  obtain ⟨cs, chars, rfl⟩ := Option.map_eq_some_iff.mp spelled
  have read := stringBytes_pieces ps [] tail (length_lt_text ps tail)
  rw [chars, Spells, List.reverse_nil, List.nil_append, ← Utf8.bytes_ofList] at read
  rw [readText, bind_ok (get_apply _), bind_ok read, Utf8.text?_bytes]
  rfl

theorem readText_error {ps : List Piece} (unspelled : pieceText? ps = none) (tail : Bytes) :
    ∃ e, readText (ps.flatMap Piece.bytes ++ 34 :: tail) = .error e := by
  have read := stringBytes_pieces ps [] tail (length_lt_text ps tail)
  rw [Option.map_eq_none_iff.mp unspelled] at read
  obtain ⟨e, failed⟩ := read
  rw [readText, bind_ok (get_apply _), bind_error failed]
  exact ⟨e, rfl⟩

/-! ### Reading over strings -/

theorem next?_cons (b : UInt8) (rest : Bytes) : next? (b :: rest) = .ok (some b, b :: rest) := rfl

theorem plain_byte {b : UInt8} (plain : escapedByte b = [b]) : ¬ b < 32 ∧ b ≠ 34 ∧ b ≠ 92 := by
  refine ⟨fun control => ?_, ?_, ?_⟩
  · unfold escapedByte at plain
    split at plain
    next => simp at plain
    next => simp [control] at plain
  · rintro rfl
    exact absurd plain (by decide)
  · rintro rfl
    exact absurd plain (by decide)

theorem passString_plain {bs : Bytes} (plain : ∀ b ∈ bs, escapedByte b = [b]) (fuel : Nat)
    (rest : Bytes) : passString (bs.length + fuel) (bs ++ rest) = passString fuel rest := by
  induction bs with
  | nil => rw [List.length_nil, Nat.zero_add]; rfl
  | cons b bs ih =>
    obtain ⟨first, plain⟩ := List.forall_mem_cons.mp plain
    obtain ⟨shown, quotation, backslash⟩ := plain_byte first
    rw [List.length_cons, Nat.add_right_comm, List.cons_append, passString, bind_ok (next?_cons b _),
      ← ih plain]
    simp only [if_neg shown, if_neg quotation, if_neg backslash]
    rfl

/-- What is read over behind a backslash. -/
def passEscape : Reader Unit := do
  let letter ← required
  if letter = 117 then discard codeUnit
  else if (unescape? letter).isNone then fail .invalidEscape

theorem passString_escape {fuel : Nat} {rest rest' : Bytes} (passed : passEscape rest = .ok ((), rest')) :
    passString (fuel + 1) (92 :: rest) = passString fuel rest' := by
  have step : passString (fuel + 1) (92 :: rest) = (passEscape >>= fun _ => passString fuel) rest := by
    rw [passString, bind_ok (next?_cons 92 rest)]
    simp only [show ¬ ((92 : UInt8) < 32) by decide, show ¬ ((92 : UInt8) = 34) by decide, if_false,
      if_true]
    rw [bind_ok (skip_cons 92 rest), passEscape, bind_assoc]
    refine congrFun (congrArg (required >>= ·) (funext fun letter => ?_)) rest
    split
    next => rfl
    next => split <;> rfl
  rw [step, bind_ok passed]

theorem passEscape_letter {letter b : UInt8} (known : unescape? letter = some b) (rest : Bytes) :
    passEscape (letter :: rest) = .ok ((), rest) := by
  rw [passEscape, bind_ok (required_cons letter rest)]
  simp only [if_neg (unescape?_apart known), known]
  rfl

theorem passEscape_unit {a b c d : UInt8} {n : Nat} (known : fourHex? a b c d = some n) (rest : Bytes) :
    passEscape (117 :: a :: b :: c :: d :: rest) = .ok ((), rest) := by
  have unit := codeUnit_cons known rest
  rw [passEscape, bind_ok (required_cons 117 _)]
  simp only [if_true]
  exact discard_ok unit

theorem passString_pieces (ps : List Piece) (tail : Bytes) {fuel : Nat}
    (enough : (ps.flatMap Piece.bytes).length < fuel) :
    passString fuel (ps.flatMap Piece.bytes ++ 34 :: tail) = .ok ((), tail) := by
  induction ps generalizing fuel with
  | nil =>
    obtain ⟨fuel, rfl⟩ := Nat.exists_eq_succ_of_ne_zero (Nat.ne_of_gt enough)
    rfl
  | cons p ps ih =>
    cases p with
    | plain c shown =>
      rw [List.flatMap_cons, List.length_append] at enough
      obtain ⟨fuel, rfl⟩ := Nat.exists_eq_add_of_le (Nat.le_of_lt (Nat.lt_of_add_right_lt enough))
      rw [List.flatMap_cons, Piece.bytes, List.append_assoc, passString_plain (shown_escapedByte shown)]
      exact ih (Nat.lt_of_add_lt_add_left enough)
    | short letter b known =>
      change (ps.flatMap Piece.bytes).length + 2 < fuel at enough
      obtain ⟨fuel, rfl⟩ := Nat.exists_eq_succ_of_ne_zero (Nat.ne_of_gt (Nat.zero_lt_of_lt enough))
      rw [short_append, passString_escape (passEscape_letter known _)]
      exact ih (by omega)
    | unit a b c d n known =>
      change (ps.flatMap Piece.bytes).length + 6 < fuel at enough
      obtain ⟨fuel, rfl⟩ := Nat.exists_eq_succ_of_ne_zero (Nat.ne_of_gt (Nat.zero_lt_of_lt enough))
      rw [unit_append, passString_escape (passEscape_unit known _)]
      exact ih (by omega)

theorem passText_pieces (ps : List Piece) (tail : Bytes) :
    passText (ps.flatMap Piece.bytes ++ 34 :: tail) = .ok ((), tail) := by
  rw [passText, bind_ok (get_apply _)]
  exact passString_pieces ps tail (length_lt_text ps tail)

end IPsecControl.Json
