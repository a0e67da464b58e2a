import IPsecControl.Proofs.Json.Spelling
import IPsecControl.Proofs.Text.Scan
import Mathlib.Tactic.IntervalCases

/-! Values that are read over. Whatever value stands there, reading over it ends right behind it, with
the same lists and objects still open as before. -/
namespace IPsecControl.Json
open Reader Text

/-! ### Numbers -/

/-- A first digit, and a run of further ones. -/
theorem Digits.cons (ds : Digits) : ∃ b bs, ds.bytes = b :: bs ∧ isDigitByte b = true ∧
    ∀ c ∈ bs, isDigitByte c = true := by
  obtain ⟨b, bs, shape⟩ := List.exists_cons_of_ne_nil ds.nonempty
  have digits := List.all_eq_true.mp ds.digits
  rw [shape] at digits
  exact ⟨b, bs, shape, List.forall_mem_cons.mp digits⟩

theorem Ends.digits {tail : Bytes} (ends : Ends tail) : ∀ b ∈ tail.head?, isDigitByte b = false := by
  intro b first
  have stop := ends b first
  simp only [Bool.or_eq_false_iff] at stop
  exact stop.1.1.1

theorem Reader.bind_congr {α β : Type} {m n : Reader α} {k : α → Reader β} {bytes bytes' : Bytes}
    (same : m bytes = n bytes') : (m >>= k) bytes = (n >>= k) bytes' := by
  change (m bytes >>= fun (a, rest) => k a rest) = (n bytes' >>= fun (a, rest) => k a rest)
  rw [same]

namespace Number

variable {rest tail : Bytes}

theorem next?_head (rest : Bytes) : next? rest = .ok (rest.head?, rest) := rfl

theorem passFirst_zero (stops : ∀ b ∈ rest.head?, isDigitByte b = false) :
    passFirst (some 48) rest = .ok ((), rest) := by
  have last : rest.head?.any isDigitByte = false := by
    cases rest with
    | nil => rfl
    | cons c rest => exact stops c rfl
  rw [passFirst, bind_ok (next?_head rest), last]
  rfl

theorem discard_digits {bs : Bytes} (digits : ∀ b ∈ bs, isDigitByte b = true)
    (stops : ∀ b ∈ rest.head?, isDigitByte b = false) :
    discard Reader.digits (bs ++ rest) = .ok ((), rest) := by
  obtain ⟨taken, left⟩ := takeWhile_append digits stops
  refine discard_ok (a := bs.map fun b => b.toNat - 48) ?_
  rw [Reader.digits, taken, left]

theorem passFirst_digit {b : UInt8} {bs : Bytes} (other : b ≠ 48) (digit : isDigitByte b = true)
    (digits : ∀ b ∈ bs, isDigitByte b = true) (stops : ∀ b ∈ rest.head?, isDigitByte b = false) :
    passFirst (some b) (bs ++ rest) = .ok ((), rest) := by
  rw [passFirst.eq_2 b other, if_pos digit]
  exact discard_digits digits stops

theorem passPlaces_some (ds : Digits) (stops : ∀ b ∈ rest.head?, isDigitByte b = false) :
    passPlaces (46 :: ds.bytes ++ rest) = .ok ((), rest) := by
  obtain ⟨taken, left⟩ := takeWhile_append (List.all_eq_true.mp ds.digits) stops
  have read : Reader.digits (ds.bytes ++ rest) = .ok (ds.bytes.map fun b => b.toNat - 48, rest) := by
    rw [Reader.digits, taken, left]
  have some : (ds.bytes.map fun b => b.toNat - 48).isEmpty = false := by
    rw [List.isEmpty_map]
    exact List.isEmpty_eq_false_iff.mpr ds.nonempty
  rw [passPlaces, List.cons_append, bind_ok (next?_cons 46 _)]
  simp only [if_true]
  rw [bind_ok (skip_cons 46 _), bind_ok read, some]
  rfl

theorem passPlaces_none (apart : rest.head? ≠ some 46) : passPlaces rest = .ok ((), rest) := by
  rw [passPlaces, bind_ok (next?_head rest), if_neg apart]
  rfl

theorem passPower_digits (ds : Digits) (stops : ∀ b ∈ rest.head?, isDigitByte b = false) :
    passPower (ds.bytes ++ rest) = .ok ((), rest) := by
  obtain ⟨b, bs, shape, digit, digits⟩ := ds.cons
  rw [shape, passPower, List.cons_append, bind_ok (take?_cons b _)]
  simp only [if_pos digit]
  exact discard_digits digits stops

theorem passSign_some (minus : Bool) (rest : Bytes) :
    passSign ((if minus then 45 else 43) :: rest) = .ok ((), rest) := by
  cases minus <;> rfl

theorem passSign_none (ds : Digits) (rest : Bytes) :
    passSign (ds.bytes ++ rest) = .ok ((), ds.bytes ++ rest) := by
  obtain ⟨b, bs, shape, digit, -⟩ := ds.cons
  have unsigned : b ≠ 43 ∧ b ≠ 45 := by
    constructor <;> (rintro rfl; exact absurd digit (by decide))
  rw [shape, passSign, List.cons_append, bind_ok (next?_cons b _), bind_ok (next?_cons b _)]
  simp only [Option.some.injEq, unsigned, decide_false, Bool.or_self, Bool.false_eq_true, if_false]
  rfl

theorem passExponent_some (e : Exponent) (stops : ∀ b ∈ rest.head?, isDigitByte b = false) :
    passExponent (e.bytes ++ rest) = .ok ((), rest) := by
  obtain ⟨upper, sign, ds⟩ := e
  have signed : passSign ((sign.map fun minus => [if minus then 45 else 43]).getD [] ++ ds.bytes ++ rest) =
      .ok ((), ds.bytes ++ rest) := by
    cases sign with
    | none => exact passSign_none ds rest
    | some minus => exact passSign_some minus (ds.bytes ++ rest)
  have letter : ((if upper then 69 else 101 : UInt8) = 101 ||
      (if upper then 69 else 101 : UInt8) = 69) = true := by
    cases upper <;> rfl
  rw [Exponent.bytes, List.cons_append, passExponent, bind_ok (next?_cons _ _), bind_ok (next?_cons _ _)]
  simp only [Option.some.injEq, letter, if_true]
  rw [bind_ok (skip_cons _ _), bind_ok signed]
  exact passPower_digits ds stops

theorem passExponent_none (apart : rest.head? ≠ some 101 ∧ rest.head? ≠ some 69) :
    passExponent rest = .ok ((), rest) := by
  rw [passExponent, bind_ok (next?_head rest), bind_ok (next?_head rest)]
  simp only [apart.1, apart.2, decide_false, Bool.or_self, Bool.false_eq_true, if_false]
  rfl

theorem passExponent_scale (e : Option Exponent) (ends : Ends tail) :
    passExponent (scaleBytes e ++ tail) = .ok ((), tail) := by
  cases e with
  | none =>
    refine passExponent_none ?_
    constructor <;> (intro first; exact absurd (ends _ first) (by decide))
  | some e => exact passExponent_some e ends.digits

theorem scale_head (e : Option Exponent) (ends : Ends tail) :
    ∀ b ∈ (scaleBytes e ++ tail).head?, isDigitByte b = false ∧ b ≠ 46 := by
  cases e with
  | none =>
    intro b first
    have stop := ends b first
    simp only [Bool.or_eq_false_iff, beq_eq_false_iff_ne] at stop
    exact ⟨stop.1.1.1, stop.1.1.2⟩
  | some e =>
    rintro b ⟨⟩
    cases e.upper <;> decide

theorem passPlaces_fraction (places : Option Digits) (e : Option Exponent) (ends : Ends tail) :
    passPlaces (fractionBytes places e ++ tail) = .ok ((), scaleBytes e ++ tail) := by
  have head := scale_head e ends
  rw [fractionBytes, List.append_assoc]
  cases places with
  | none => exact passPlaces_none fun first => (head _ first).2 rfl
  | some ds => exact passPlaces_some ds fun b first => (head b first).1

theorem fraction_head (places : Option Digits) (e : Option Exponent) (ends : Ends tail) :
    ∀ b ∈ (fractionBytes places e ++ tail).head?, isDigitByte b = false := by
  cases places with
  | none => exact fun b first => (scale_head e ends b first).1
  | some ds =>
    rintro b ⟨⟩
    decide

theorem passFirst_whole (d : Decimal) (stops : ∀ b ∈ rest.head?, isDigitByte b = false) :
    (take? >>= passFirst) (d.whole.bytes ++ rest) = .ok ((), rest) := by
  obtain ⟨b, bs, shape, digit, digits⟩ := d.whole.cons
  have canonical := d.canonical
  rw [shape] at canonical ⊢
  rw [List.cons_append, bind_ok (take?_cons b _)]
  by_cases zero : b = 48
  · subst zero
    obtain rfl := (List.cons.inj (canonical rfl)).2
    exact passFirst_zero stops
  · exact passFirst_digit zero digit digits stops

/-- Reading over a number ends where the number does. -/
theorem pass_decimal (d : Decimal) (ends : Ends tail) : pass (d.magnitude ++ tail) = .ok ((), tail) := by
  have whole := passFirst_whole d (fraction_head d.places d.exponent ends)
  rw [Decimal.magnitude, List.append_assoc, pass, ← bind_assoc, bind_ok whole,
    bind_ok (passPlaces_fraction d.places d.exponent ends)]
  exact passExponent_scale d.exponent ends

end Number

/-! ### Scalars -/

theorem literal_append (bs tail : Bytes) : literal bs (bs ++ tail) = .ok ((), tail) := by
  induction bs with
  | nil => rfl
  | cons b bs ih =>
    rw [literal, List.cons_append, bind_ok (take?_cons b _)]
    simp only [if_true]
    exact ih

/-- A number begins with a minus or a digit. -/
theorem Decimal.shape (d : Decimal) : (d.negative = true ∧ d.bytes = 45 :: d.magnitude) ∨
    ∃ b bs, isDigitByte b = true ∧ d.bytes = d.magnitude ∧ d.magnitude = b :: bs := by
  obtain ⟨b, bs, shape, digit, -⟩ := d.whole.cons
  cases sign : d.negative with
  | true => exact .inl ⟨rfl, by rw [Decimal.bytes, sign]; rfl⟩
  | false =>
    refine .inr ⟨b, bs ++ fractionBytes d.places d.exponent, digit, by rw [Decimal.bytes, sign]; rfl, ?_⟩
    rw [Decimal.magnitude, shape, List.cons_append]

theorem digit_cases {b : UInt8} (digit : isDigitByte b = true) : ∃ n < 10, b = UInt8.ofNat (n + 48) := by
  simp only [isDigitByte, Bool.and_eq_true, decide_eq_true_eq] at digit
  have low : 48 ≤ b.toNat := digit.1
  have high : b.toNat ≤ 57 := digit.2
  refine ⟨b.toNat - 48, by omega, ?_⟩
  rw [Nat.sub_add_cancel low, UInt8.ofNat_toNat]

theorem digit_shown {b : UInt8} (digit : isDigitByte b = true) :
    isBlankByte b = false ∧ b ≠ closeBracket := by
  have all : ∀ n < 10, isBlankByte (UInt8.ofNat (n + 48)) = false ∧
      UInt8.ofNat (n + 48) ≠ closeBracket := by decide
  obtain ⟨n, small, rfl⟩ := digit_cases digit
  exact all n small

theorem IsValue.begins {bytes : Bytes} (value : IsValue bytes) : Begins bytes := by
  cases value with
  | number d =>
    obtain ⟨-, shape⟩ | ⟨b, bs, digit, same, shape⟩ := d.shape
    · exact ⟨_, _, shape, by decide, by decide⟩
    · exact ⟨b, bs, same.trans shape, digit_shown digit⟩
  | _ => exact ⟨_, _, rfl, by decide, by decide⟩

section
variable (before : Blanks) (tail : Bytes)

theorem passStart_blanks {b : UInt8} (shown : isBlankByte b = false) :
    passStart (before.bytes ++ b :: tail) = passStart (b :: tail) := by
  rw [passStart, bind_ok (before.peek_append shown tail), bind_ok (peek_cons shown tail)]

theorem passStart_literal {b : UInt8} {bs : Bytes} (shown : isBlankByte b = false)
    (known : ∀ rest, passStart (b :: rest) = (literal bs >>= fun _ => pure none) rest) :
    passStart (before.bytes ++ (b :: bs ++ tail)) = .ok (none, tail) := by
  rw [List.cons_append, passStart_blanks before (bs ++ tail) shown, known,
    bind_ok (literal_append bs tail)]
  rfl

theorem passStart_text (ps : List Piece) :
    passStart (before.bytes ++ (quotedPieces ps ++ tail)) = .ok (none, tail) := by
  have quoted : ∀ rest, passStart (quote :: rest) = (passText >>= fun _ => pure none) rest := fun _ => rfl
  rw [quotedPieces_append, passStart_blanks before _ (by decide), quoted, bind_ok (passText_pieces ps tail)]
  rfl

theorem passStart_digit {b : UInt8} (digit : isDigitByte b = true) :
    passStart (b :: tail) = (Number.pass >>= fun _ => pure none) (b :: tail) := by
  obtain ⟨n, small, rfl⟩ := digit_cases digit
  interval_cases n <;> rfl

theorem passStart_number (d : Decimal) (ends : Ends tail) :
    passStart (before.bytes ++ (d.bytes ++ tail)) = .ok (none, tail) := by
  have passed := Number.pass_decimal d ends
  obtain ⟨-, shape⟩ | ⟨b, bs, digit, same, shape⟩ := d.shape
  · have minus : ∀ rest, passStart (45 :: rest) = (Number.pass >>= fun _ => pure none) rest :=
      fun _ => rfl
    rw [shape, List.cons_append, passStart_blanks before _ (by decide), minus, bind_ok passed]
    rfl
  · rw [same]
    rw [shape, List.cons_append] at passed ⊢
    rw [passStart_blanks before _ (digit_shown digit).1, passStart_digit _ digit, bind_ok passed]
    rfl

end

/-! ### Lists and objects -/

/-- What is read over behind a value, or behind an opening bracket or brace. -/
def passOn (behindValue : Bool) (fuel : Nat) (frames : List Frame) : Reader Unit := do
  let rest ← passEnds behindValue frames
  if rest.isEmpty then return else passOpen fuel rest

/-- Reading over the bytes is no more than what comes after them, and takes no more rounds than there
are bytes. -/
def Passes (bytes : Bytes) : Prop :=
  ∀ (fuel : Nat) (frames : List Frame) (before : Blanks) (tail : Bytes), bytes.length ≤ fuel →
    Ends tail → ∃ left, fuel ≤ left + bytes.length ∧
      passOpen fuel frames (before.bytes ++ (bytes ++ tail)) = passOn true left frames tail

theorem Passes.scalar {bytes : Bytes} (nonempty : 0 < bytes.length)
    (starts : ∀ (before : Blanks) tail, Ends tail →
      passStart (before.bytes ++ (bytes ++ tail)) = .ok (none, tail)) : Passes bytes := by
  intro fuel frames before tail enough ends
  obtain ⟨fuel, rfl⟩ := Nat.exists_eq_succ_of_ne_zero (Nat.ne_of_gt (Nat.lt_of_lt_of_le nonempty enough))
  refine ⟨fuel, Nat.add_le_add_left nonempty fuel, ?_⟩
  rw [passOpen, bind_ok (starts before tail ends)]
  rfl

def Frame.closing : Frame → UInt8
  | .list => closeBracket
  | .object => closeBrace

/-- Reading over an item of a list, or a member of an object, is no more than what comes after it. -/
def PassesIn (frame : Frame) (part : Bytes) : Prop :=
  ∀ (first : Bool) (fuel : Nat) (outer : List Frame) (before : Blanks) (tail : Bytes),
    part.length ≤ fuel → Ends tail → ∃ left, ∃ after : Blanks, fuel ≤ left + part.length ∧
      passOn (!first) fuel (frame :: outer) (before.bytes ++ (lead first part ++ tail)) =
        passOn true left (frame :: outer) (after.bytes ++ tail)

theorem row_ends (parts : List Bytes) {b : UInt8} (closes : b = closeBracket ∨ b = closeBrace)
    (tail : Bytes) : Ends (row false parts ++ b :: tail) := by
  cases parts with
  | nil => obtain rfl | rfl := closes <;> exact ends_cons (by decide) tail
  | cons part parts => exact ends_cons (by decide) _

section
variable (outer : List Frame) (before : Blanks)

theorem passEnds_closing (frame : Frame) (behindValue : Bool) (tail : Bytes) :
    passEnds behindValue (frame :: outer) (before.bytes ++ frame.closing :: tail) =
      passEnds true outer tail := by
  have shown : isBlankByte frame.closing = false := by cases frame <;> decide
  have apart : frame.closing ≠ comma := by cases frame <;> decide
  cases frame <;>
  · rw [passEnds, bind_ok (before.peek_append shown tail)]
    simp only [apart, and_false, if_false]
    rfl

/-- The first item of a list is found. -/
theorem passEnds_item {b : UInt8} (shown : isBlankByte b = false) (opens : b ≠ closeBracket)
    (rest : Bytes) : passEnds false (.list :: outer) (before.bytes ++ b :: rest) =
      .ok (.list :: outer, b :: rest) := by
  rw [passEnds, bind_ok (before.peek_append shown rest)]
  simp [opens]
  rfl

theorem passEnds_key (rest : Bytes) : passEnds false (.object :: outer) (before.bytes ++ quote :: rest) =
    (passKey >>= fun _ => pure (.object :: outer)) (quote :: rest) := by
  rw [passEnds, bind_ok (before.peek_append (by decide) rest)]
  rfl

theorem passEnds_nextItem (rest : Bytes) : passEnds true (.list :: outer) (before.bytes ++ comma :: rest) =
    .ok (.list :: outer, rest) := by
  rw [passEnds, bind_ok (before.peek_append (by decide) rest)]
  rfl

theorem passEnds_nextKey (rest : Bytes) : passEnds true (.object :: outer) (before.bytes ++ comma :: rest) =
    (passKey >>= fun _ => pure (.object :: outer)) rest := by
  rw [passEnds, bind_ok (before.peek_append (by decide) rest)]
  rfl

end

theorem passOn_next {behindValue : Bool} {fuel : Nat} {frame : Frame} {frames outer : List Frame}
    {bytes rest : Bytes} (passed : passEnds behindValue frames bytes = .ok (frame :: outer, rest)) :
    passOn behindValue fuel frames bytes = passOpen fuel (frame :: outer) rest := by
  rw [passOn, bind_ok passed]
  rfl

theorem passKey_member (m : Member) (before : Blanks) (rest : Bytes) :
    passKey (before.bytes ++ (quotedPieces m.key ++ (m.behind.bytes ++ colon :: rest))) =
      .ok ((), rest) := by
  rw [passKey, quotedPieces_append, bind_ok (before.peek_append (by decide) _)]
  simp only [if_true]
  rw [bind_ok (skip_cons _ _), bind_ok (passText_pieces _ _), readColon,
    bind_ok (m.behind.peek_append (by decide) _)]
  rfl

theorem passOn_row {frame : Frame} {parts : List Bytes} (passes : ∀ part ∈ parts, PassesIn frame part)
    (first : Bool) (fuel : Nat) (outer : List Frame) (before : Blanks) (tail : Bytes)
    (enough : (row first parts).length ≤ fuel) :
    ∃ left, fuel ≤ left + (row first parts).length ∧
      passOn (!first) fuel (frame :: outer) (before.bytes ++ (row first parts ++ frame.closing :: tail)) =
        passOn true left outer tail := by
  -- Behind each part the blanks after it stand in front of the others, and the rounds it took are gone.
  induction parts generalizing first fuel before with
  | nil => exact ⟨fuel, Nat.le_refl fuel, bind_congr (passEnds_closing outer before frame _ tail)⟩
  | cons part parts ih =>
    obtain ⟨this, later⟩ := List.forall_mem_cons.mp passes
    have bound : part.length + (row false parts).length ≤ (row first (part :: parts)).length := by
      cases first <;> simp [row, lead, Nat.add_assoc]
    have ends : Ends (row false parts ++ frame.closing :: tail) :=
      row_ends parts (by cases frame <;> simp [Frame.closing]) tail
    obtain ⟨mid, after, used, passed⟩ := this first fuel outer before _ (by omega) ends
    obtain ⟨left, used', passed'⟩ := ih later false mid after (by omega)
    refine ⟨left, by omega, ?_⟩
    rw [row_cons, passed]
    exact passed'

theorem passesIn_item {x : Padded} (begins : Begins x.value) (passes : Passes x.value) :
    PassesIn .list x.bytes := by
  intro first fuel outer before tail enough ends
  have size : x.value.length ≤ x.bytes.length := by
    simp only [Padded.bytes, List.length_append]
    omega
  have passed := fun blanks : Blanks =>
    passes fuel (.list :: outer) blanks (x.after.bytes ++ tail) (by omega) (x.after.ends ends)
  cases first with
  | true =>
    -- The blanks in front of the first item are gone before it is known to be there.
    obtain ⟨left, used, passed⟩ := passed .none
    obtain ⟨b, rest, shape, shown, opens⟩ := begins
    refine ⟨left, x.after, by omega, ?_⟩
    rw [lead_true, x.blanks_append, ← passed, shape]
    exact passOn_next (passEnds_item outer _ shown opens _)
  | false =>
    obtain ⟨left, used, passed⟩ := passed x.before
    refine ⟨left, x.after, by omega, ?_⟩
    rw [lead_false, ← passed, ← x.bytes_append]
    exact passOn_next (passEnds_nextItem outer before _)

theorem passesIn_member {m : Member} (passes : Passes m.value.value) : PassesIn .object m.bytes := by
  intro first fuel outer before tail enough ends
  have size : m.value.value.length ≤ m.bytes.length := by
    simp only [Member.bytes, Padded.bytes, List.length_append, List.length_cons]
    omega
  obtain ⟨left, used, passed⟩ := passes fuel (.object :: outer) m.value.before
    (m.value.after.bytes ++ tail) (by omega) (m.value.after.ends ends)
  refine ⟨left, m.value.after, by omega, ?_⟩
  rw [← passed, ← m.value.bytes_append]
  have keyed := fun blanks => passKey_member m blanks (m.value.bytes ++ tail)
  cases first with
  | true =>
    have found := passEnds_key outer (before.append m.before) (m.key.flatMap Piece.bytes ++
      34 :: (m.behind.bytes ++ colon :: (m.value.bytes ++ tail)))
    rw [← quotedPieces_append] at found
    rw [lead_true, m.blanks_append]
    exact passOn_next (found.trans (bind_ok (keyed .none)))
  | false =>
    have found := passEnds_nextKey outer before (m.bytes ++ tail)
    rw [m.bytes_append] at found
    rw [lead_false, List.cons_append, m.bytes_append]
    exact passOn_next (found.trans (bind_ok (keyed m.before)))

theorem Passes.of_row (frame : Frame) {opening : UInt8} {inside : Blanks} {parts : List Bytes}
    (shown : isBlankByte opening = false)
    (starts : ∀ rest, passStart (opening :: rest) = .ok (some frame, rest))
    (passes : ∀ part ∈ parts, PassesIn frame part) :
    Passes (opening :: (inside.bytes ++ (row true parts ++ [frame.closing]))) := by
  intro fuel frames before tail enough ends
  simp only [List.length_cons, List.length_append] at enough
  obtain ⟨fuel, rfl⟩ := Nat.exists_eq_succ_of_ne_zero (by omega : fuel ≠ 0)
  obtain ⟨left, used, passed⟩ := passOn_row passes true fuel frames inside tail (by omega)
  refine ⟨left, by simp only [List.length_cons, List.length_append]; omega, ?_⟩
  have shape : opening :: (inside.bytes ++ (row true parts ++ [frame.closing])) ++ tail =
      opening :: (inside.bytes ++ (row true parts ++ frame.closing :: tail)) := by simp
  rw [shape, passOpen, bind_ok ((passStart_blanks before _ shown).trans (starts _))]
  exact passed

theorem IsValue.passes {bytes : Bytes} (value : IsValue bytes) : Passes bytes := by
  induction value with
  | null | yes | no =>
    exact .scalar (by decide) fun before tail _ => passStart_literal before tail (by decide) fun _ => rfl
  | number d =>
    obtain ⟨b, rest, shape, -⟩ := (IsValue.number d).begins
    exact .scalar (shape ▸ Nat.succ_pos _) fun before tail => passStart_number before tail d
  | text ps => exact .scalar (Nat.succ_pos _) fun before tail _ => passStart_text before tail ps
  | list inside values ih =>
    exact Passes.of_row .list (by decide) (fun _ => rfl) <| List.forall_mem_map.mpr fun x item =>
      passesIn_item (values x item).begins (ih x item)
  | object inside values ih =>
    exact Passes.of_row .object (by decide) (fun _ => rfl) <| List.forall_mem_map.mpr fun m member =>
      passesIn_member (ih m member)

/-- Reading over a value ends behind it. -/
theorem passValue_value {bytes : Bytes} (value : IsValue bytes) (before : Blanks) {tail : Bytes}
    (ends : Ends tail) : passValue (before.bytes ++ (bytes ++ tail)) = .ok ((), tail) := by
  obtain ⟨left, -, passed⟩ := value.passes ((before.bytes ++ (bytes ++ tail)).length + 1) [] before tail
    (by simp only [List.length_append]; omega) ends
  rw [passValue, bind_ok (get_apply _), passed]
  rfl

end IPsecControl.Json
