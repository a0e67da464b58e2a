import IPsecControl.Proofs.Wire.Arrangement

/-! Encodings as rows of items, and what a decoder makes of them. The items that are written arrange
the message, an arrangement may be permuted and items of unknown tags may go anywhere in it, and a
second encoding behind the first is merged into it. -/
namespace IPsecControl
namespace Wire
open Text

/-- A field is written as its items. -/
theorem Scalar.items_bytes (tag : Nat) (k : Scalar) (v : k.Value) :
    (k.items tag v).flatMap Item.bytes = k.encode tag v := by
  cases k with
  | texts => simp only [items, encode, List.flatMap_map, Item.block_bytes]
  | codes | text | bytes =>
    simp only [items, encode]
    split
    next => rfl
    next => exact List.flatMap_singleton .. |>.trans (Item.block_bytes ..)
  | word32 | word64 | flag | code =>
    simp only [items, encode]
    split
    next => rfl
    next => exact List.flatMap_singleton ..

theorem Scalar.items_tag (tag : Nat) (k : Scalar) (v : k.Value) : ∀ x ∈ k.items tag v, x.tag = tag := by
  cases k with
  | texts => exact List.forall_mem_map.mpr fun _ _ => rfl
  | codes | text | bytes | word32 | word64 | flag | code =>
    simp only [items]
    split
    next => exact List.forall_mem_nil _
    next => exact List.forall_mem_singleton.mpr rfl

theorem Scalar.items_arranged (tag : Nat) (k : Scalar) (v : k.Value) : k.Arranges tag v (k.items tag v) := by
  cases k with
  | codes =>
    change Cut tag v (if v = [] then [] else [.block tag (packed v)])
    split
    next none => exact none ▸ .done
    next => exact .whole tag v
  | text | bytes | word32 | word64 | flag | code | texts => rfl

namespace Schema

/-- The items of a record as they are written. -/
def items : (s : Schema) → s.Record → List Item
  | .done, _ => []
  | .scalar t _ kind rest, (v, r) => kind.items t v ++ rest.items r
  | .message t _ _ inner rest, (m, r) => (m.toList.map fun m => .block t (inner.encode m)) ++ rest.items r
  | .messages t _ _ inner rest, (ms, r) => (ms.map fun m => .block t (inner.encode m)) ++ rest.items r

theorem items_bytes (s : Schema) (r : s.Record) : (s.items r).flatMap Item.bytes = s.encode r := by
  induction s with
  | done => rfl
  | scalar t _ kind rest ih => rw [items, encode, List.flatMap_append, kind.items_bytes, ih]
  | message t _ _ inner rest _ ih =>
    obtain ⟨_ | m, r⟩ := r
    · exact ih r
    · rw [items, encode, List.flatMap_append, ih]
      simp only [Option.toList, List.map_cons, List.map_nil, List.flatMap_singleton, Item.block_bytes]
      rw [block, inner.encode_length]
  | messages t _ _ inner rest _ ih =>
    rw [items, encode, List.flatMap_append, ih, List.flatMap_map]
    simp only [Item.block_bytes, block, inner.encode_length]

theorem items_tag (s : Schema) (r : s.Record) : ∀ x ∈ s.items r, x.tag ∈ s.tags := by
  induction s with
  | done => exact List.forall_mem_nil _
  | scalar t _ kind rest ih =>
    refine List.forall_mem_append.mpr ⟨fun x member => ?_, fun x member => ?_⟩
    · exact List.mem_cons.mpr (.inl (kind.items_tag t r.1 x member))
    · exact List.mem_cons_of_mem t (ih r.2 x member)
  | message t _ _ inner rest _ ih | messages t _ _ inner rest _ ih =>
    refine List.forall_mem_append.mpr ⟨?_, fun x member => ?_⟩
    · exact List.forall_mem_map.mpr fun _ _ => List.mem_cons_self
    · exact List.mem_cons_of_mem t (ih r.2 x member)

/-- Items of one tag in front of items of other tags are told apart by the tag. -/
theorem filter_tag {tag : Nat} {front back : List Item} (own : ∀ x ∈ front, x.tag = tag)
    (others : ∀ x ∈ back, x.tag ≠ tag) :
    (front ++ back).filter (·.tag == tag) = front ∧ (front ++ back).filter (·.tag != tag) = back := by
  simp only [List.filter_append]
  constructor
  · rw [List.filter_eq_self.mpr, List.filter_eq_nil_iff.mpr, List.append_nil] <;> simpa
  · rw [List.filter_eq_nil_iff.mpr, List.filter_eq_self.mpr, List.nil_append] <;> simpa

theorem blocks_tag {α : Type} (tag : Nat) (write : α → Bytes) (as : List α) :
    ∀ x ∈ as.map fun a => Item.block tag (write a), x.tag = tag :=
  List.forall_mem_map.mpr fun _ _ => rfl

theorem blocks_arranged {inner : Schema} (arranged : ∀ m, inner.Arranges m (inner.items m)) (t : Nat)
    (ms : List inner.Record) :
    List.Forall₂ (Item.Holds inner.Arranges t) ms (ms.map fun m => .block t (inner.encode m)) := by
  refine List.forall₂_map_right_iff.mpr (List.forall₂_same.mpr fun m _ => ?_)
  exact ⟨inner.items m, arranged m, by rw [inner.items_bytes]⟩

/-- The items that are written arrange the record. -/
theorem items_arranged {s : Schema} (well : s.wellFormed = true) (r : s.Record) :
    s.Arranges r (s.items r) := by
  -- An item of the rest of the fields has a tag of its own.
  have apart {t : Nat} {rest : Schema} (fresh : t ∉ rest.tags) (r : rest.Record) :
      ∀ x ∈ rest.items r, x.tag ≠ t :=
    fun x member same => fresh (same ▸ rest.items_tag r x member)
  induction s with
  | done => exact List.forall_mem_nil _
  | scalar t _ kind rest ih =>
    obtain ⟨v, r⟩ := r
    simp only [wellFormed, Bool.and_eq_true, decide_eq_true_eq] at well
    obtain ⟨⟨-, fresh⟩, well⟩ := well
    obtain ⟨own, others⟩ := filter_tag (kind.items_tag t v) (apart fresh r)
    rw [items, Arranges, own, others]
    exact ⟨kind.items_arranged t v, ih well r⟩
  | message t _ _ inner rest ihInner ih =>
    obtain ⟨m, r⟩ := r
    simp only [wellFormed, Bool.and_eq_true, decide_eq_true_eq] at well
    obtain ⟨⟨⟨-, fresh⟩, wellInner⟩, well⟩ := well
    obtain ⟨own, others⟩ := filter_tag (blocks_tag t inner.encode _) (apart fresh r)
    rw [items, Arranges, own, others]
    exact ⟨blocks_arranged (ihInner wellInner) t m.toList, ih well r⟩
  | messages t _ _ inner rest ihInner ih =>
    obtain ⟨ms, r⟩ := r
    simp only [wellFormed, Bool.and_eq_true, decide_eq_true_eq] at well
    obtain ⟨⟨⟨-, fresh⟩, wellInner⟩, well⟩ := well
    obtain ⟨own, others⟩ := filter_tag (blocks_tag t inner.encode _) (apart fresh r)
    rw [items, Arranges, own, others]
    exact ⟨blocks_arranged (ihInner wellInner) t ms, ih well r⟩

end Schema

/-- Of each of the tags, the same items in the same order; and all items with other tags, wherever they
come from, are well-formed. -/
structure Alters (tags : List Nat) (items others : List Item) : Prop where
  same : ∀ tag ∈ tags, others.filter (·.tag == tag) = items.filter (·.tag == tag)
  foreign : ∀ x ∈ others, x.tag ∉ tags → x.WellFormed

theorem Alters.later {tag : Nat} {tags : List Nat} {items others : List Item}
    (alters : Alters (tag :: tags) items others) :
    Alters tags (items.filter (·.tag != tag)) (others.filter (·.tag != tag)) where
  same other member := by
    rw [List.filter_comm, alters.same other (List.mem_cons_of_mem tag member), List.filter_comm]
  foreign x member undeclared := by
    obtain ⟨member, apart⟩ := List.mem_filter.mp member
    refine alters.foreign x member fun declared => ?_
    obtain same | declared := List.mem_cons.mp declared
    · exact bne_iff_ne.mp apart same
    · exact undeclared declared

/-- An arrangement may be permuted, as long as the items of one tag keep their order, and well-formed
items of tags that are not declared may be put in anywhere. -/
theorem Schema.Arranges.alter {s : Schema} {r : s.Record} {items others : List Item}
    (arranged : s.Arranges r items) (alters : Alters s.tags items others) : s.Arranges r others := by
  induction s generalizing items others with
  | done => exact fun x member => alters.foreign x member List.not_mem_nil
  | scalar t _ _ _ ih | message t _ _ _ _ _ ih | messages t _ _ _ _ _ ih =>
    obtain ⟨ofField, later⟩ := arranged
    rw [← alters.same t List.mem_cons_self] at ofField
    exact ⟨ofField, ih later alters.later⟩

namespace Schema
variable (s : Schema) (owner : String)

/-- The items of a row are read as the record into which they are merged. -/
theorem decode_items {items : List Item} {r : s.Record}
    (absorbs : Absorbs (s.mergeField owner depthLimit) s.empty items r) :
    s.decode owner (items.flatMap Item.bytes) = .ok r := by
  have read := absorbs.steps.repeatStep [] (Nat.le_refl _)
  rw [List.append_nil, List.length_nil] at read
  rw [decode, merge, read]
  rfl

variable (well : s.wellFormed = true) (shallow : s.depth < depthLimit)
include well shallow

/-- Every arrangement of a record is read as the record. -/
theorem decode_arranged {r : s.Record} {items : List Item} (arranged : s.Arranges r items)
    (fits : (items.flatMap Item.bytes).length < 2 ^ 64) :
    s.decode owner (items.flatMap Item.bytes) = .ok r := by
  have absorbed := s.arranged_absorbed owner well shallow arranged (fits_of_length fits) s.empty
  rw [s.combine_empty] at absorbed
  exact s.decode_items owner absorbed

/-- Two encodings in a row are read as the second record merged into the first. -/
theorem decode_append (r q : s.Record) (fits : (s.encode r ++ s.encode q).length < 2 ^ 64) :
    s.decode owner (s.encode r ++ s.encode q) = .ok (s.combine r q) := by
  rw [← s.items_bytes r, ← s.items_bytes q, ← List.flatMap_append] at fits ⊢
  obtain ⟨first, second⟩ := List.forall_mem_append.mp (fits_of_length fits)
  have absorbed := s.arranged_absorbed owner well shallow (items_arranged well r) first s.empty
  rw [s.combine_empty] at absorbed
  exact s.decode_items owner
    (absorbed.append (s.arranged_absorbed owner well shallow (items_arranged well q) second r))

end Schema
end Wire

namespace Message
open Wire
variable {α : Type} [Message α]

theorem catalog_shallow : ∀ d ∈ catalog, d.schema.depth < depthLimit := by
  decide

/-- The items of a message as they are written. -/
def items (m : α) : List Item := (schema α).items (toRecord m)

/-- The items arrange the encoding of the message. -/
def Arranges (m : α) (items : List Item) : Prop := (schema α).Arranges (toRecord m) items

/-- Two messages field by field: the values of the second unless they are the defaults, lists one after
the other, and sub-messages combined in the same way. -/
def combine (m n : α) : α := ofRecord ((schema α).combine (toRecord m) (toRecord n))

/-- The items of an encoding arrange the message, and so does every row that has the items of each tag in the same
order and well-formed items of unknown tags in between. From every arrangement, in which lists of codes may
also be cut into any pieces, the message is read. -/
theorem read_however_arranged (listed : descriptor α ∈ catalog) (m : α) :
    (items m).flatMap Item.bytes = encode m ∧ Arranges m (items m) ∧
    (∀ row others, Arranges m row → Alters (schema α).tags row others → Arranges m others) ∧
    ∀ row, Arranges m row → (row.flatMap Item.bytes).length < 2 ^ 64 → decode (row.flatMap Item.bytes) = .ok m := by
  have well := (catalog_wellFormed (descriptor α) listed).1
  have shallow := catalog_shallow (descriptor α) listed
  refine ⟨(schema α).items_bytes (toRecord m), Schema.items_arranged well (toRecord m), ?_, ?_⟩
  · intro row others arranged alters
    exact Schema.Arranges.alter arranged alters
  · intro row arranged fits
    rw [decode, (schema α).decode_arranged (name α) well shallow arranged fits]
    simp [Except.map]

/-- A child with three ciphers, the last of which is none that is known. -/
def scatteredChild : Child where
  name := "net"
  espProposals := some { cryptoAlg := [12, 7, -1], dhgroups := [31] }

/-- Its proposals with the groups first, the ciphers in two pieces, and a field of a later version. -/
def scatteredProposals : List Item :=
  [.block 3 (packed [31]), .number 1 (codeNumber 12), .block 4 [1, 2], .block 1 (packed [7, -1])]

/-- A field with an overlong key, the proposals, a number with an overlong zero, and the name. -/
def scatteredItems : List Item :=
  [⟨15, .thirtyTwoBit, [0xfd, 0x80, 0x00], [1, 2, 3, 4]⟩,
   .block 2 (scatteredProposals.flatMap Item.bytes),
   .ofField 9 .varint [0x80, 0x00],
   .block 1 (Text.Utf8.bytes "net")]

theorem read_however_arranged_scattered :
    descriptor Child ∈ catalog ∧ Arranges scatteredChild scatteredItems ∧
      (scatteredItems.flatMap Item.bytes).length < 2 ^ 64 ∧
      decode (scatteredItems.flatMap Item.bytes) = .ok scatteredChild := by
  have listed : descriptor Child ∈ catalog := by simp [catalog]
  have later : (Item.block 4 [1, 2]).WellFormed :=
    ⟨Item.ofField_keyed ⟨by decide, by decide⟩ _ _, .lengthDelimited (Varint.spells_encode (by decide))⟩
  have four : (⟨15, .thirtyTwoBit, [0xfd, 0x80, 0x00], [1, 2, 3, 4]⟩ : Item).WellFormed :=
    ⟨⟨⟨by decide, by decide⟩, ⟨[0xfd, 0x80], 0x00, rfl, by simp, by decide⟩, by decide, rfl, by decide⟩,
      .thirtyTwoBit rfl⟩
  have zero : (Item.ofField 9 .varint [0x80, 0x00]).WellFormed :=
    ⟨Item.ofField_keyed ⟨by decide, by decide⟩ _ _,
      .varint (n := 0) ⟨⟨[0x80], 0x00, rfl, by simp, by decide⟩, by decide, rfl, by decide⟩⟩
  have inside : Proposals.schema.Arranges ([12, 7, -1], [], [31], ()) scatteredProposals :=
    ⟨.single (.whole 1 [7, -1]), .done, .whole 3 [31], List.forall_mem_singleton.mpr later⟩
  have arranged : Arranges scatteredChild scatteredItems :=
    ⟨rfl, .cons ⟨_, inside, rfl⟩ .nil, .nil, .nil,
      List.forall_mem_cons.mpr ⟨four, List.forall_mem_singleton.mpr zero⟩⟩
  have fits : (scatteredItems.flatMap Item.bytes).length < 2 ^ 64 := by decide
  obtain ⟨-, -, -, read⟩ := read_however_arranged listed scatteredChild
  exact ⟨listed, arranged, fits, read scatteredItems arranged fits⟩

/-- The encodings of two messages in a row are read as the two combined. -/
theorem appended_encodings_combine (listed : descriptor α ∈ catalog) (m n : α)
    (fits : (encode m ++ encode n).length < 2 ^ 64) :
    decode (encode m ++ encode n) = .ok (combine m n) := by
  have well := (catalog_wellFormed (descriptor α) listed).1
  have shallow := catalog_shallow (descriptor α) listed
  rw [decode, encode, encode, (schema α).decode_append (name α) well shallow _ _ fits]
  rfl

/-- What stands behind the child: one more cipher, and traffic selectors. -/
def laterChild : Child where
  espProposals := some { cryptoAlg := [5] }
  localTs := some {}

theorem appended_encodings_combine_children :
    descriptor Child ∈ catalog ∧ (encode scatteredChild ++ encode laterChild).length < 2 ^ 64 ∧
      decode (encode scatteredChild ++ encode laterChild) =
        .ok ({ name := "net", espProposals := some { cryptoAlg := [12, 7, -1, 5], dhgroups := [31] },
               localTs := some {} } : Child) := by
  have listed : descriptor Child ∈ catalog := by simp [catalog]
  have fits : (encode scatteredChild ++ encode laterChild).length < 2 ^ 64 := by decide
  exact ⟨listed, fits, appended_encodings_combine listed scatteredChild laterChild fits⟩

end Message
end IPsecControl
