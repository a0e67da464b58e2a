import IPsecControl.Proofs.Json.Passing
import Mathlib.Data.List.Basic

/-! What a reader makes of a value. It reads the value to its end wherever the value stands, or it fails
wherever the value stands; it never stops in the middle of one. -/
namespace IPsecControl.Json
open Reader Text

variable {α β : Type}

/-- The value is read to its end, whatever stands around it. -/
def Gives (read : Reader α) (value : Bytes) (a : α) : Prop :=
  ∀ (before : Blanks) (tail : Bytes), Ends tail → read (before.bytes ++ (value ++ tail)) = .ok (a, tail)

/-- The value is not read, whatever stands around it. -/
def Fails (read : Reader α) (value : Bytes) : Prop :=
  ∀ (before : Blanks) (tail : Bytes), Ends tail → ∃ e, read (before.bytes ++ (value ++ tail)) = .error e

def Decides (read : Reader α) (value : Bytes) : Prop := (∃ a, Gives read value a) ∨ Fails read value

/-- Any value is read to its end, or not at all. -/
def Decisive (read : Reader α) : Prop := ∀ value, IsValue value → Decides read value

theorem ends_nil : Ends [] := nofun

theorem Gives.here {read : Reader α} {value : Bytes} {a : α} (gives : Gives read value a) {tail : Bytes}
    (ends : Ends tail) : read (value ++ tail) = .ok (a, tail) :=
  gives .none tail ends

theorem Fails.here {read : Reader α} {value : Bytes} (fails : Fails read value) {tail : Bytes}
    (ends : Ends tail) : ∃ e, read (value ++ tail) = .error e :=
  fails .none tail ends

theorem Gives.not_fails {read : Reader α} {value : Bytes} {a : α} (gives : Gives read value a) :
    ¬ Fails read value := by
  intro fails
  obtain ⟨e, failed⟩ := fails.here ends_nil
  exact absurd ((gives.here ends_nil).symm.trans failed) nofun

theorem Gives.map {read : Reader α} {value : Bytes} {a : α} (gives : Gives read value a) (f : α → β) :
    Gives (do return f (← read)) value (f a) := by
  intro before tail ends
  rw [bind_ok (gives before tail ends)]
  rfl

theorem Fails.map {read : Reader α} {value : Bytes} (fails : Fails read value) (f : α → β) :
    Fails (do return f (← read)) value := by
  intro before tail ends
  obtain ⟨e, failed⟩ := fails before tail ends
  exact ⟨e, bind_error failed⟩

theorem Decides.map {read : Reader α} {value : Bytes} (decides : Decides read value) (f : α → β) :
    Decides (do return f (← read)) value := by
  obtain ⟨a, gives⟩ | fails := decides
  · exact .inl ⟨f a, gives.map f⟩
  · exact .inr (fails.map f)

/-- What a reader returns of a value is what another one read of it: the same wherever the value stands,
as no two values are returned as one. -/
theorem Gives.of_map {read : Reader α} {value : Bytes} {f : α → β} (injective : Function.Injective f)
    {b : β} (gives : Gives (do return f (← read)) value b) : ∃ a, b = f a ∧ Gives read value a := by
  have inside : ∀ (before : Blanks) tail, Ends tail →
      ∃ a, b = f a ∧ read (before.bytes ++ (value ++ tail)) = .ok (a, tail) := by
    intro before tail ends
    have whole := gives before tail ends
    cases result : read (before.bytes ++ (value ++ tail)) with
    | error e => exact absurd (whole.symm.trans (bind_error result)) nofun
    | ok pair =>
      obtain ⟨a, rest⟩ := pair
      rw [bind_ok result] at whole
      cases whole
      exact ⟨a, rfl, rfl⟩
  obtain ⟨a, same, -⟩ := inside .none [] ends_nil
  refine ⟨a, same, fun before tail ends => ?_⟩
  obtain ⟨a', same', read⟩ := inside before tail ends
  rwa [injective (same.symm.trans same')]

/-! ### Values that are not wanted -/

/-- Nothing is read from any bytes. -/
def Never (read : Reader α) : Prop := ∀ bytes, ∃ e, read bytes = .error e

theorem Never.bind {m : Reader α} {k : α → Reader β} (never : ∀ a, Never (k a)) : Never (m >>= k) := by
  intro bytes
  cases result : m bytes with
  | error e => exact ⟨e, bind_error result⟩
  | ok pair =>
    obtain ⟨e, failed⟩ := never pair.1 pair.2
    exact ⟨e, (bind_ok result).trans failed⟩

theorem invalidType_never (expected : String) : Never (invalidType expected : Reader α) := by
  have found : ∀ u, Never (fail (.invalidType u expected) : Reader α) := fun u bytes => ⟨_, rfl⟩
  refine Never.bind fun first => ?_
  split
  case h_6 => exact found _
  case h_7 => exact found _
  case h_8 =>
    split
    · exact .bind fun _ => found _
    · exact fun bytes => ⟨_, rfl⟩
  case h_9 => exact fun bytes => ⟨_, rfl⟩
  all_goals exact .bind fun _ => .bind fun _ => found _

/-- Behind blanks a reader that looks at the next byte finds the first one of a value. -/
theorem peek_bind (before : Blanks) {b : UInt8} (shown : isBlankByte b = false) (rest : Bytes)
    (k : Option UInt8 → Reader α) : (peek >>= k) (before.bytes ++ b :: rest) = k (some b) (b :: rest) :=
  bind_ok (before.peek_append shown rest)

/-- The first byte of a value tells its kind. -/
theorem IsValue.first {value : Bytes} (shape : IsValue value) :
    ∃ b rest, value = b :: rest ∧ isBlankByte b = false ∧
      (b = quote → ∃ ps, value = quotedPieces ps) ∧
      (b = openBracket → ∃ inside items, value = listOf inside items ∧ ∀ x ∈ items, IsValue x.value) ∧
      (b = openBrace → ∃ inside ms, value = objectOf inside ms ∧ ∀ m ∈ ms, IsValue m.value.value) ∧
      (b = 110 → value = 110 :: nullRest) := by
  cases shape with
  | text ps => exact ⟨_, _, rfl, by decide, fun _ => ⟨ps, rfl⟩, nofun, nofun, nofun⟩
  | list inside values =>
    exact ⟨_, _, rfl, by decide, nofun, fun _ => ⟨inside, _, rfl, values⟩, nofun, nofun⟩
  | object inside values =>
    exact ⟨_, _, rfl, by decide, nofun, nofun, fun _ => ⟨inside, _, rfl, values⟩, nofun⟩
  | null => exact ⟨_, _, rfl, by decide, nofun, nofun, nofun, fun _ => rfl⟩
  | yes | no => exact ⟨_, _, rfl, by decide, nofun, nofun, nofun, nofun⟩
  | number d =>
    obtain ⟨-, shape⟩ | ⟨b, bs, digit, same, shape⟩ := d.shape
    · exact ⟨_, _, shape, by decide, nofun, nofun, nofun, nofun⟩
    · refine ⟨b, bs, same.trans shape, (digit_shown digit).1, ?_, ?_, ?_, ?_⟩ <;>
      · rintro rfl
        exact absurd digit (by decide)

/-! ### Texts -/

theorem readString_text {ps : List Piece} {s : String} (spelled : pieceText? ps = some s) :
    Gives readString (quotedPieces ps) s := by
  intro before tail _
  rw [quotedPieces_append, readString, peek_bind before (by decide)]
  simp only [if_true]
  rw [bind_ok (skip_cons _ _)]
  exact readText_pieces spelled tail

theorem readString_decisive : Decisive readString := by
  intro value shape
  obtain ⟨b, rest, first, shown, text, -⟩ := shape.first
  by_cases opens : b = quote
  · obtain ⟨ps, rfl⟩ := text opens
    cases spelled : pieceText? ps with
    | some s => exact .inl ⟨s, readString_text spelled⟩
    | none =>
      refine .inr fun before tail _ => ?_
      rw [quotedPieces_append, readString, peek_bind before (by decide)]
      simp only [if_true]
      rw [bind_ok (skip_cons _ _)]
      exact readText_error spelled tail
  · refine .inr fun before tail _ => ?_
    rw [first, List.cons_append, readString, peek_bind before shown]
    simp only [if_neg opens]
    exact invalidType_never _ _

/-! ### Lists -/

theorem moreItems_closing (first : Bool) (before : Blanks) (tail : Bytes) :
    moreItems first (before.bytes ++ closeBracket :: tail) = .ok (false, closeBracket :: tail) := by
  rw [moreItems, peek_bind before (by decide)]
  rfl

theorem moreItems_item (first : Bool) (before : Blanks) {x : Padded} (begins : Begins x.value)
    (rest : Bytes) : moreItems first (before.bytes ++ (lead first x.bytes ++ rest)) =
      .ok (true, x.value ++ (x.after.bytes ++ rest)) := by
  obtain ⟨b, more, shape, shown, opens⟩ := begins
  cases first with
  | true =>
    rw [lead_true, x.blanks_append, shape, List.cons_append, moreItems, peek_bind _ shown]
    simp only [if_neg opens, if_true]
    rfl
  | false =>
    rw [lead_false, List.cons_append, moreItems, peek_bind before (by decide)]
    simp only [if_neg (by decide : comma ≠ closeBracket), Bool.false_eq_true, if_false, if_true]
    rw [bind_ok (skip_cons _ _), x.bytes_append, shape, List.cons_append, peek_bind _ shown]
    simp only [if_neg opens]
    rfl

/-- A row of parts that are not empty takes at least as many bytes as there are parts. -/
theorem length_le_row {parts : List Bytes} (nonempty : ∀ part ∈ parts, part ≠ []) (first : Bool) :
    parts.length ≤ (row first parts).length := by
  induction parts generalizing first with
  | nil => exact Nat.zero_le _
  | cons part parts ih =>
    obtain ⟨this, later⟩ := List.forall_mem_cons.mp nonempty
    have within := ih later false
    have some := List.length_pos_iff.mpr this
    cases first <;> simp only [row, lead, if_true, Bool.false_eq_true, if_false, List.length_append,
      List.length_cons] <;> omega

section
variable {item : Reader α} (before : Blanks) (tail : Bytes) {fuel : Nat}

theorem items_ends (items : List Padded) :
    Ends (row false (items.map Padded.bytes) ++ closeBracket :: tail) :=
  row_ends _ (.inl rfl) tail

theorem readItems_gives {items : List Padded} {as : List α}
    (gives : List.Forall₂ (fun x a => Begins x.value ∧ Gives item x.value a) items as)
    (enough : items.length < fuel) (first : Bool) :
    readItems item fuel first
      (before.bytes ++ (row first (items.map Padded.bytes) ++ closeBracket :: tail)) =
      .ok (as, closeBracket :: tail) := by
  induction gives generalizing fuel before first with
  | nil =>
    obtain ⟨fuel, rfl⟩ := Nat.exists_eq_succ_of_ne_zero (Nat.ne_of_gt enough)
    rw [readItems, List.map_nil, row, List.nil_append, bind_ok (moreItems_closing first before tail)]
    rfl
  | @cons x a items as this _ ih =>
    obtain ⟨fuel, rfl⟩ := Nat.exists_eq_succ_of_ne_zero (Nat.ne_of_gt (Nat.zero_lt_of_lt enough))
    have read := this.2.here (x.after.ends (items_ends tail items))
    rw [readItems, List.map_cons, row_cons, bind_ok (moreItems_item first before this.1 _)]
    simp only [if_true]
    rw [bind_ok read, bind_ok (ih x.after (Nat.lt_of_succ_lt_succ enough) false)]
    rfl

theorem readItems_fails {items : List Padded} (shapes : ∀ x ∈ items, IsValue x.value)
    (decides : ∀ x ∈ items, Decides item x.value) (broken : ∃ x ∈ items, Fails item x.value)
    (enough : items.length < fuel) (first : Bool) :
    ∃ e, readItems item fuel first
      (before.bytes ++ (row first (items.map Padded.bytes) ++ closeBracket :: tail)) = .error e := by
  induction items generalizing fuel before first with
  | nil =>
    obtain ⟨x, none, -⟩ := broken
    contradiction
  | cons x items ih =>
    obtain ⟨fuel, rfl⟩ := Nat.exists_eq_succ_of_ne_zero (Nat.ne_of_gt (Nat.zero_lt_of_lt enough))
    obtain ⟨shape, shapes⟩ := List.forall_mem_cons.mp shapes
    obtain ⟨this, decides⟩ := List.forall_mem_cons.mp decides
    have ends := x.after.ends (items_ends tail items)
    rw [readItems, List.map_cons, row_cons, bind_ok (moreItems_item first before shape.begins _)]
    simp only [if_true]
    obtain ⟨a, gives⟩ | fails := this
    · have read := gives.here ends
      obtain here | later := List.or_exists_of_exists_mem_cons broken
      · exact absurd here gives.not_fails
      · obtain ⟨e, failed⟩ := ih x.after shapes decides later (Nat.lt_of_succ_lt_succ enough) false
        exact ⟨e, (bind_ok read).trans (bind_error failed)⟩
    · obtain ⟨e, failed⟩ := fails.here ends
      exact ⟨e, bind_error failed⟩

end

theorem listOf_append (inside : Blanks) (items : List Padded) (tail : Bytes) : listOf inside items ++ tail =
    openBracket :: (inside.bytes ++ (row true (items.map Padded.bytes) ++ closeBracket :: tail)) := by
  simp [listOf]

theorem items_length {items : List Padded} (begins : ∀ x ∈ items, Begins x.value) (inside : Blanks)
    (tail : Bytes) : items.length <
      (inside.bytes ++ (row true (items.map Padded.bytes) ++ closeBracket :: tail)).length + 1 := by
  have nonempty : ∀ part ∈ items.map Padded.bytes, part ≠ [] := List.forall_mem_map.mpr fun x member => by
    obtain ⟨b, rest, shape, -⟩ := begins x member
    simp [Padded.bytes, shape]
  have within := length_le_row nonempty true
  rw [List.length_map] at within
  simp only [List.length_append]
  omega

theorem readList_gives {item : Reader α} {inside : Blanks} {items : List Padded} {as : List α}
    (gives : List.Forall₂ (fun x a => Begins x.value ∧ Gives item x.value a) items as) :
    Gives (readList item) (listOf inside items) as := by
  intro before tail _
  have begins : ∀ x ∈ items, Begins x.value := by
    induction gives with
    | nil => exact nofun
    | cons this _ ih => exact List.forall_mem_cons.mpr ⟨this.1, ih⟩
  rw [listOf_append, readList, peek_bind before (by decide)]
  simp only [if_true]
  rw [bind_ok (skip_cons _ _), bind_ok (get_apply _),
    bind_ok (readItems_gives inside tail gives (items_length begins inside tail) true),
    bind_ok (endList_end tail)]
  rfl

theorem readList_fails {item : Reader α} {inside : Blanks} {items : List Padded}
    (shapes : ∀ x ∈ items, IsValue x.value) (decides : ∀ x ∈ items, Decides item x.value)
    (broken : ∃ x ∈ items, Fails item x.value) : Fails (readList item) (listOf inside items) := by
  intro before tail _
  have enough := items_length (fun x member => (shapes x member).begins) inside tail
  obtain ⟨e, failed⟩ := readItems_fails inside tail shapes decides broken enough true
  rw [listOf_append, readList, peek_bind before (by decide)]
  simp only [if_true]
  rw [bind_ok (skip_cons _ _), bind_ok (get_apply _), bind_error failed]
  exact ⟨e, rfl⟩

theorem exists_forall₂ {γ : Type} {P : γ → α → Prop} {cs : List γ} (each : ∀ c ∈ cs, ∃ a, P c a) :
    ∃ as, List.Forall₂ P cs as := by
  induction cs with
  | nil => exact ⟨[], .nil⟩
  | cons c cs ih =>
    obtain ⟨⟨a, this⟩, later⟩ := List.forall_mem_cons.mp each
    obtain ⟨as, rest⟩ := ih later
    exact ⟨a :: as, .cons this rest⟩

theorem readList_decisive {item : Reader α} (decisive : Decisive item) : Decisive (readList item) := by
  intro value shape
  obtain ⟨b, rest, first, shown, -, list, -⟩ := shape.first
  by_cases opens : b = openBracket
  · obtain ⟨inside, items, rfl, shapes⟩ := list opens
    by_cases broken : ∃ x ∈ items, Fails item x.value
    · exact .inr (readList_fails shapes (fun x member => decisive x.value (shapes x member)) broken)
    · have each : ∀ x ∈ items, ∃ a, Begins x.value ∧ Gives item x.value a := fun x member => by
        have decides := decisive x.value (shapes x member)
        obtain ⟨a, gives⟩ := decides.resolve_right fun fails => broken ⟨x, member, fails⟩
        exact ⟨a, (shapes x member).begins, gives⟩
      obtain ⟨as, gives⟩ := exists_forall₂ each
      exact .inl ⟨as, readList_gives gives⟩
  · refine .inr fun before tail _ => ?_
    rw [first, List.cons_append, readList, peek_bind before shown]
    simp only [if_neg opens]
    exact invalidType_never _ _

/-! ### Null -/

theorem orNull_null (value : Reader α) : Gives (orNull value) (110 :: nullRest) none := by
  intro before tail _
  rw [List.cons_append, orNull, peek_bind before (by decide)]
  simp only [if_true]
  rw [bind_ok (skip_cons _ _), bind_ok (literal_append nullRest tail)]
  rfl

/-- What does not begin like a null is read as a value that is there. -/
theorem orNull_apart {value : Reader α} {b : UInt8} {rest : Bytes} (shown : isBlankByte b = false)
    (apart : b ≠ 110) (before : Blanks) (tail : Bytes) :
    orNull value (before.bytes ++ (b :: rest ++ tail)) =
      (do return some (← value)) (b :: rest ++ tail) := by
  rw [List.cons_append, orNull, peek_bind before shown]
  simp only [Option.some.injEq, if_neg apart]

theorem orNull_decisive {read : Reader α} (decisive : Decisive read) : Decisive (orNull read) := by
  intro value shape
  obtain ⟨b, rest, rfl, shown, -, -, -, null⟩ := shape.first
  by_cases apart : b = 110
  · rw [null apart]
    exact .inl ⟨none, orNull_null read⟩
  · obtain ⟨a, gives⟩ | fails := (decisive _ shape).map some
    · refine .inl ⟨a, fun before tail ends => ?_⟩
      rw [orNull_apart shown apart]
      exact gives.here ends
    · refine .inr fun before tail ends => ?_
      rw [orNull_apart shown apart]
      exact fails.here ends

end IPsecControl.Json
