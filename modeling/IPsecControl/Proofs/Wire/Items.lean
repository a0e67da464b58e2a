import IPsecControl.Proofs.Wire.RoundTrip

/-! Items on the wire. A byte string is a row of items, each of them a key and a value. A value takes
in the items of a row one by one; if it has two parts, and items of one tag go to the first part and
all others to the second, then only the order within either part counts. -/
namespace IPsecControl.Wire
open Text

namespace Varint

/-- The number in the low seven bits of the bytes, lowest first. -/
def number : Bytes → Nat
  | [] => 0
  | b :: bs => b.toNat % 128 + 128 * number bs

/-- The bytes spell a number below `2 ^ 64`: the top bit is set on all but the last, and there are at
most ten of them, which may be more than the number needs. -/
structure Spells (bytes : Bytes) (n : Nat) : Prop where
  ends : ∃ front last, bytes = front ++ [last] ∧ (∀ b ∈ front, 128 ≤ b.toNat) ∧ last.toNat < 128
  short : bytes.length ≤ 10
  value : number bytes = n
  fits : n < 2 ^ 64

theorem readWithin_number {left : Nat} {front : Bytes} {last : UInt8}
    (continued : ∀ b ∈ front, 128 ≤ b.toNat) (stops : last.toNat < 128) (short : front.length ≤ left)
    (fits : number (front ++ [last]) < 2 * 128 ^ left) (rest : Bytes) :
    readWithin (left + 1) (front ++ [last] ++ rest) = some (number (front ++ [last]), rest) := by
  induction front generalizing left with
  | nil =>
    have value : number [last] = last.toNat := by
      simp only [number]
      omega
    rw [List.nil_append, value] at fits ⊢
    rw [List.singleton_append, readWithin, if_pos stops, if_neg]
    rintro ⟨rfl, large⟩
    omega
  | cons b front ih =>
    obtain ⟨left, rfl⟩ := Nat.exists_eq_add_of_le' (Nat.zero_lt_of_lt short)
    obtain ⟨goesOn, continued⟩ := List.forall_mem_cons.mp continued
    simp only [List.cons_append, number, Nat.pow_succ] at fits ⊢
    have later := ih continued (Nat.le_of_succ_le_succ short) (by omega)
    rw [readWithin, if_neg (by omega), later]
    rfl

theorem Spells.read {bytes : Bytes} {n : Nat} (spelled : Spells bytes n) (rest : Bytes) :
    read? (bytes ++ rest) = some (n, rest) := by
  obtain ⟨⟨front, last, rfl, continued, stops⟩, short, rfl, fits⟩ := spelled
  rw [List.length_append] at short
  exact readWithin_number continued stops (Nat.le_of_succ_le_succ short) (by omega) rest

theorem groups_ends (more n : Nat) (fits : n < 2 * 128 ^ more) :
    (∃ front last, groups more n = front ++ [last] ∧ (∀ b ∈ front, 128 ≤ b.toNat) ∧ last.toNat < 128) ∧
      number (groups more n) = n := by
  have single {n : Nat} (small : n < 128) : (UInt8.ofNat n).toNat = n :=
    UInt8.toNat_ofNat_of_lt' (show _ < 256 by omega)
  have last {n : Nat} (small : n < 128) :
      (∃ front last, [UInt8.ofNat n] = front ++ [last] ∧ (∀ b ∈ front, 128 ≤ b.toNat) ∧
        last.toNat < 128) ∧ number [UInt8.ofNat n] = n := by
    refine ⟨⟨[], _, rfl, List.forall_mem_nil _, (single small).symm ▸ small⟩, ?_⟩
    rw [number, number, single small]
    omega
  induction more generalizing n with
  | zero => exact last (by omega)
  | succ more ih =>
    rw [groups]
    split
    next small => exact last small
    next large =>
      rw [Nat.pow_succ] at fits
      obtain ⟨⟨front, stop, shape, continued, stops⟩, value⟩ := ih (n / 128) (by omega)
      have byte : (UInt8.ofNat (128 + n % 128)).toNat = 128 + n % 128 :=
        UInt8.toNat_ofNat_of_lt' (show _ < 256 by omega)
      refine ⟨⟨_ :: front, stop, by rw [shape]; rfl, ?_, stops⟩, ?_⟩
      · exact List.forall_mem_cons.mpr ⟨by omega, continued⟩
      · rw [number, value, byte]
        omega

/-- What is written of a number spells it. -/
theorem spells_encode {n : Nat} (fits : n < 2 ^ 64) : Spells (encode n) n := by
  obtain ⟨ends, value⟩ := groups_ends 9 n (by omega)
  exact ⟨ends, encode_length n ▸ size_le n, value, fits⟩

end Varint

/-- One item: its tag, its wire type, its key as it is written, and its value. -/
structure Item where
  tag : Nat
  type : WireType
  key : Bytes
  value : Bytes
  deriving DecidableEq

namespace Item

def bytes (x : Item) : Bytes := x.key ++ x.value

/-- The key of the item spells its tag and its wire type. -/
structure Keyed (x : Item) : Prop where
  tagged : IsTag x.tag
  spelled : Varint.Spells x.key (8 * x.tag + x.type.number)

theorem Keyed.readKey {x : Item} (keyed : x.Keyed) (rest : Bytes) :
    Wire.readKey (x.key ++ rest) = .ok ((x.tag, x.type), rest) := by
  obtain ⟨⟨positive, bounded⟩, spelled⟩ := keyed
  have small := x.type.number_lt
  have number : (8 * x.tag + x.type.number) % 8 = x.type.number := by omega
  have shifted : (8 * x.tag + x.type.number) / 8 = x.tag := by omega
  rw [Wire.readKey, readVarint, spelled.read]
  simp only [bind, Except.bind]
  rw [if_neg (by omega), number, shifted, WireType.ofNumber?_number]
  simp only
  rw [if_neg (by omega)]

theorem Keyed.key_ne_nil {x : Item} (keyed : x.Keyed) : x.key ≠ [] := by
  obtain ⟨front, last, shape, -⟩ := keyed.spelled.ends
  rw [shape]
  exact List.append_ne_nil_of_right_ne_nil _ (List.cons_ne_nil _ _)

/-- An item with a key of the fewest bytes. -/
def ofField (tag : Nat) (type : WireType) (value : Bytes) : Item := ⟨tag, type, Wire.key tag type, value⟩

def number (tag n : Nat) : Item := ofField tag .varint (Varint.encode n)

def block (tag : Nat) (payload : Bytes) : Item :=
  ofField tag .lengthDelimited (Varint.encode payload.length ++ payload)

theorem block_bytes (tag : Nat) (payload : Bytes) : (block tag payload).bytes = Wire.block tag payload :=
  (List.append_assoc _ _ _).symm

theorem ofField_keyed {tag : Nat} (tagged : IsTag tag) (type : WireType) (value : Bytes) :
    (ofField tag type value).Keyed := by
  have small := type.number_lt
  obtain ⟨positive, bounded⟩ := tagged
  exact ⟨⟨positive, bounded⟩, Varint.spells_encode (by omega)⟩

end Item

/-- The bytes are a value of the wire type. Groups are left out. -/
inductive WireType.IsValue : WireType → Bytes → Prop where
  | varint {bytes : Bytes} {n : Nat} (spelled : Varint.Spells bytes n) : IsValue .varint bytes
  | thirtyTwoBit {bytes : Bytes} (four : bytes.length = 4) : IsValue .thirtyTwoBit bytes
  | sixtyFourBit {bytes : Bytes} (eight : bytes.length = 8) : IsValue .sixtyFourBit bytes
  | lengthDelimited {length payload : Bytes} (spelled : Varint.Spells length payload.length) :
    IsValue .lengthDelimited (length ++ payload)

/-- The item has a key and a value as they have to be. -/
structure Item.WellFormed (x : Item) : Prop extends x.Keyed where
  valued : x.type.IsValue x.value

/-- The value of a field that has no meaning is skipped. -/
theorem skipField_value {type : WireType} {value : Bytes} (valued : type.IsValue value)
    (depth tag : Nat) (rest : Bytes) : skipField (depth + 1) type tag (value ++ rest) = .ok rest := by
  cases valued with
  | varint spelled =>
    rw [skipField, readVarint, spelled.read]
    rfl
  | thirtyTwoBit four =>
    have taken := takeBytes_append value rest
    rw [four] at taken
    rw [skipField, taken]
    rfl
  | sixtyFourBit eight =>
    have taken := takeBytes_append value rest
    rw [eight] at taken
    rw [skipField, taken]
    rfl
  | @lengthDelimited length payload spelled =>
    rw [skipField, readBlock, readVarint, List.append_assoc, spelled.read]
    simp only [bind, Except.bind, takeBytes_append]
    rfl

/-- A value takes in the items of a row one by one, each whatever comes after it. -/
inductive Absorbs {α : Type} (merge : Nat → WireType → α → Bytes → Except DecodeError (α × Bytes)) :
    α → List Item → α → Prop where
  | done (a : α) : Absorbs merge a [] a
  | next {a b c : α} {x : Item} {rest : List Item} (keyed : x.Keyed)
      (merged : ∀ tail, merge x.tag x.type a (x.value ++ tail) = .ok (b, tail))
      (later : Absorbs merge b rest c) : Absorbs merge a (x :: rest) c

namespace Absorbs
variable {α β : Type} {a a' : α} {b b' : β} {items : List Item}
variable {merge : Nat → WireType → α → Bytes → Except DecodeError (α × Bytes)}

theorem single {x : Item} (keyed : x.Keyed)
    (merged : ∀ tail, merge x.tag x.type a (x.value ++ tail) = .ok (a', tail)) :
    Absorbs merge a [x] a' :=
  .next keyed merged (.done a')

theorem append {a'' : α} {more : List Item} (first : Absorbs merge a items a')
    (later : Absorbs merge a' more a'') : Absorbs merge a (items ++ more) a'' := by
  induction first with
  | done => exact later
  | next keyed merged _ ih => exact .next keyed merged (ih later)

/-- Items that are not written leave the value as it is. -/
theorem written_unless {p : Prop} [Decidable p] (absorbs : ¬ p → Absorbs merge a items a') :
    Absorbs merge a (if p then [] else items) (if p then a else a') := by
  split
  next => exact .done a
  next fails => exact absorbs fails

theorem steps (absorbs : Absorbs merge a items a') :
    Steps (mergeNext merge) a (items.flatMap Item.bytes) a' := by
  induction absorbs with
  | done => exact .done _
  | @next a b c x rest keyed merged _ ih =>
    refine .next (List.append_ne_nil_of_left_ne_nil keyed.key_ne_nil _) (fun tail => ?_) ih
    rw [mergeNext, Item.bytes, List.append_assoc, keyed.readKey]
    exact merged tail

/-- A length and the items of a sub-message are merged one level further down. -/
theorem mergeBlock {merge : Nat → Nat → WireType → α → Bytes → Except DecodeError (α × Bytes)}
    {depth : Nat} (absorbs : Absorbs (merge depth) a items a')
    (fits : (items.flatMap Item.bytes).length < 2 ^ 64) (tail : Bytes) :
    Wire.mergeBlock merge (depth + 1) .lengthDelimited a
      (Varint.encode (items.flatMap Item.bytes).length ++ items.flatMap Item.bytes ++ tail) =
        .ok (a', tail) := by
  have block := absorbs.steps.withinBlock (⟨·, []⟩) fits tail
  simpa [Wire.mergeBlock, expectType, bind, Except.bind] using block

/-- If items of one tag go to the first part of a pair and all others to the second, the pair takes in
any row that the parts take in. -/
theorem both {tag : Nat} {later : Nat → WireType → β → Bytes → Except DecodeError (β × Bytes)}
    {whole : Nat → WireType → α × β → Bytes → Except DecodeError ((α × β) × Bytes)}
    (first : Absorbs merge a (items.filter (·.tag == tag)) a')
    (second : Absorbs later b (items.filter (·.tag != tag)) b')
    (ofTag : ∀ type a b bytes,
      whole tag type (a, b) bytes = (merge tag type a bytes).map fun (a, rest) => ((a, b), rest))
    (ofOthers : ∀ other type a b bytes, other ≠ tag →
      whole other type (a, b) bytes = (later other type b bytes).map fun (b, rest) => ((a, b), rest)) :
    Absorbs whole (a, b) items (a', b') := by
  induction items generalizing a b with
  | nil =>
    cases first
    cases second
    exact .done _
  | cons x items ih =>
    by_cases same : x.tag = tag
    · subst same
      simp only [List.filter_cons, beq_self_eq_true, bne_self_eq_false, if_true, Bool.false_eq_true,
        if_false] at first second
      cases first with
      | next keyed merged first =>
        refine .next keyed (fun tail => ?_) (ih first second)
        rw [ofTag, merged]
        rfl
    · have apart : (x.tag == tag) = false := beq_false_of_ne same
      simp only [List.filter_cons, bne, apart, Bool.false_eq_true, if_false, Bool.not_false,
        if_true] at first second
      cases second with
      | next keyed merged second =>
        refine .next keyed (fun tail => ?_) (ih first second)
        rw [ofOthers _ _ _ _ _ same, merged]
        rfl

end Absorbs
end IPsecControl.Wire
