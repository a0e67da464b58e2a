import IPsecControl.Proofs.Wire.Items
import Mathlib.Data.List.Forall2

/-! Arrangements of encodings. The items of a message may come in another order, as long as those of
one field keep theirs, with foreign items among them and with lists of codes cut into pieces; what is
read is the same message. Items that follow an encoding are merged into it, field by field. -/
namespace IPsecControl
namespace Wire
open Text

/-! ### Merging -/

/-- A later value replaces the one before it unless it is the default, which is not on the wire; lists
grow. -/
def Scalar.combine : (k : Scalar) → k.Value → k.Value → k.Value
  | .text, (s : String), (t : String) => if t = "" then s else t
  | .bytes, (b : Bytes), (c : Bytes) => if c = [] then b else c
  | .word32, (n : UInt32), (m : UInt32) => if m = 0 then n else m
  | .word64, (n : UInt64), (m : UInt64) => if m = 0 then n else m
  | .flag, (b : Bool), (c : Bool) => if c = false then b else c
  | .code, (c : Int32), (d : Int32) => if d = 0 then c else d
  | .texts, (ss : List String), (ts : List String) => ss ++ ts
  | .codes, (cs : List Int32), (ds : List Int32) => cs ++ ds

/-- Two records field by field: values replaced, lists appended, and sub-messages that both have
combined in the same way. -/
def Schema.combine : (s : Schema) → s.Record → s.Record → s.Record
  | .done, _, _ => ()
  | .scalar _ _ kind rest, (v, r), (w, q) => (kind.combine v w, rest.combine r q)
  | .message _ _ _ inner rest, (m, r), (n, q) => (m.merge inner.combine n, rest.combine r q)
  | .messages _ _ _ _ rest, (ms, r), (ns, q) => (ms ++ ns, rest.combine r q)

theorem Scalar.combine_default (k : Scalar) (v : k.Value) : k.combine k.default v = v := by
  cases k with
  | texts | codes => exact List.nil_append v
  | text | bytes | word32 | word64 | flag | code => exact ite_eq_right_iff.mpr Eq.symm

theorem Schema.combine_empty (s : Schema) (r : s.Record) : s.combine s.empty r = r := by
  induction s with
  | done => rfl
  | scalar _ _ kind rest ih => exact Prod.ext (kind.combine_default r.1) (ih r.2)
  | message _ _ _ inner rest _ ih => exact Prod.ext (by obtain ⟨_ | m, r⟩ := r <;> rfl) (ih r.2)
  | messages _ _ _ _ rest _ ih => exact Prod.ext (List.nil_append _) (ih r.2)

/-! ### Arrangements -/

/-- The items of a field as they are written. -/
def Scalar.items (tag : Nat) : (k : Scalar) → k.Value → List Item
  | .text, (s : String) => if s = "" then [] else [.block tag (Utf8.bytes s)]
  | .bytes, (b : Bytes) => if b = [] then [] else [.block tag b]
  | .word32, (n : UInt32) => if n = 0 then [] else [.number tag n.toNat]
  | .word64, (n : UInt64) => if n = 0 then [] else [.number tag n.toNat]
  | .flag, (b : Bool) => if b = false then [] else [.number tag (flagNumber b)]
  | .code, (c : Int32) => if c = 0 then [] else [.number tag (codeNumber c)]
  | .texts, (ss : List String) => ss.map fun s => .block tag (Utf8.bytes s)
  | .codes, (cs : List Int32) => if cs = [] then [] else [.block tag (packed cs)]

/-- A list of codes in pieces, each of them a packed block or a single code. -/
inductive Cut (tag : Nat) : List Int32 → List Item → Prop where
  | done : Cut tag [] []
  | packed {cs ds : List Int32} {items : List Item} (later : Cut tag ds items) :
    Cut tag (cs ++ ds) (.block tag (Wire.packed cs) :: items)
  | single {c : Int32} {ds : List Int32} {items : List Item} (later : Cut tag ds items) :
    Cut tag (c :: ds) (.number tag (codeNumber c) :: items)

theorem Cut.whole (tag : Nat) (cs : List Int32) : Cut tag cs [.block tag (Wire.packed cs)] := by
  have cut : Cut tag (cs ++ []) [.block tag (Wire.packed cs)] := .packed .done
  rwa [List.append_nil] at cut

/-- The items are those of a field, in order; only a list of codes may be cut differently. -/
def Scalar.Arranges (tag : Nat) : (k : Scalar) → k.Value → List Item → Prop
  | .codes, (cs : List Int32), items => Cut tag cs items
  | k, v, items => items = k.items tag v

/-- The item is a block that holds an arrangement of the message. -/
def Item.Holds {α : Type} (arranges : α → List Item → Prop) (tag : Nat) (m : α) (x : Item) : Prop :=
  ∃ inside, arranges m inside ∧ x = .block tag (inside.flatMap Item.bytes)

/-- The items arrange the encoding of a record: of each field, the items with its tag are those of the
field in order, and all items with other tags are well-formed. Sub-messages may be arranged as well. -/
def Schema.Arranges : (s : Schema) → s.Record → List Item → Prop
  | .done, _, items => ∀ x ∈ items, x.WellFormed
  | .scalar t _ kind rest, (v, r), items =>
    kind.Arranges t v (items.filter (·.tag == t)) ∧ rest.Arranges r (items.filter (·.tag != t))
  | .message t _ _ inner rest, (m, r), items =>
    List.Forall₂ (Item.Holds inner.Arranges t) m.toList (items.filter (·.tag == t)) ∧
      rest.Arranges r (items.filter (·.tag != t))
  | .messages t _ _ inner rest, (ms, r), items =>
    List.Forall₂ (Item.Holds inner.Arranges t) ms (items.filter (·.tag == t)) ∧
      rest.Arranges r (items.filter (·.tag != t))

def Item.Fits (x : Item) : Prop := x.bytes.length < 2 ^ 64

theorem fits_of_length {items : List Item} (short : (items.flatMap Item.bytes).length < 2 ^ 64) :
    ∀ x ∈ items, x.Fits :=
  fun _ member => Nat.lt_of_le_of_lt (length_of_mem_flatMap member) short

theorem Item.Fits.payload {tag : Nat} {payload : Bytes} (fits : (Item.block tag payload).Fits) :
    payload.length < 2 ^ 64 := by
  rw [Item.Fits, Item.block_bytes] at fits
  exact payload_lt fits

theorem fits_of_written {p : Prop} [Decidable p] {x : Item}
    (fits : ∀ y ∈ if p then [] else [x], y.Fits) (some : ¬ p) : x.Fits := by
  rw [if_neg some] at fits
  exact fits x (List.mem_singleton_self x)

namespace Scalar
variable {k : Scalar} {tag : Nat} {v w : k.Value} {fail : DecodeCause → DecodeError}

theorem absorbs_block {payload : Bytes} (tagged : IsTag tag)
    (merged : ∀ tail, k.merge .lengthDelimited v (Varint.encode payload.length ++ payload ++ tail) =
      .ok (w, tail)) : Absorbs (k.mergeValue fail) v [.block tag payload] w :=
  .single (Item.ofField_keyed tagged _ _) fun tail => congrArg (·.mapError fail) (merged tail)

theorem absorbs_number {n : Nat} (tagged : IsTag tag)
    (merged : ∀ tail, k.merge .varint v (Varint.encode n ++ tail) = .ok (w, tail)) :
    Absorbs (k.mergeValue fail) v [.number tag n] w :=
  .single (Item.ofField_keyed tagged _ _) fun tail => congrArg (·.mapError fail) (merged tail)

theorem merge_code (c v : Int32) (tail : Bytes) :
    code.merge .varint v (Varint.encode (codeNumber c) ++ tail) = .ok (c, tail) := by
  rw [merge, readVarint_encode (codeNumber_lt c)]
  simp [expectType, bind, Except.bind, pure, Except.pure, numberCode_codeNumber]

theorem cut_absorbed (tagged : IsTag tag) {cs : List Int32} {items : List Item} (cut : Cut tag cs items)
    (fits : ∀ x ∈ items, x.Fits) (before : List Int32) :
    Absorbs (codes.mergeValue fail) before items (before ++ cs) := by
  induction cut generalizing before with
  | done =>
    rw [List.append_nil]
    exact .done before
  | @packed cs ds items _ ih =>
    obtain ⟨first, fits⟩ := List.forall_mem_cons.mp fits
    have later := ih fits (before ++ cs)
    rw [List.append_assoc] at later
    refine (absorbs_block tagged fun tail => ?_).append later
    exact (packed_steps before cs).withinBlock id first.payload tail
  | @single c ds items _ ih =>
    have later := ih (List.forall_mem_cons.mp fits).2 (before ++ [c])
    rw [List.append_assoc] at later
    refine (absorbs_number tagged fun tail => ?_).append later
    rw [merge, if_neg (by decide), appendCode, readVarint_encode (codeNumber_lt c)]
    simp [expectType, bind, Except.bind, pure, Except.pure, numberCode_codeNumber]

theorem texts_absorbed (tagged : IsTag tag) (ss : List String)
    (fits : ∀ x ∈ texts.items tag ss, x.Fits) (before : List String) :
    Absorbs (texts.mergeValue fail) before (texts.items tag ss) (before ++ ss) := by
  induction ss generalizing before with
  | nil =>
    rw [List.append_nil]
    exact .done before
  | cons s ss ih =>
    obtain ⟨first, fits⟩ := List.forall_mem_cons.mp fits
    have later := ih fits (before ++ [s])
    rw [List.append_assoc] at later
    refine (absorbs_block tagged fun tail => ?_).append later
    rw [merge, readText_encode first.payload tail]
    simp [expectType, bind, Except.bind, pure, Except.pure]

/-- The items of a field are merged into its value. -/
theorem arranged_absorbed (fail : DecodeCause → DecodeError) (tagged : IsTag tag) {items : List Item} (arranged : k.Arranges tag w items)
    (fits : ∀ x ∈ items, x.Fits) (v : k.Value) : Absorbs (k.mergeValue fail) v items (k.combine v w) := by
  cases k with
  | codes => exact cut_absorbed tagged arranged fits v
  | text =>
    subst arranged
    refine .written_unless fun some => absorbs_block tagged fun tail => ?_
    exact readText_encode (fits_of_written fits some).payload tail
  | bytes =>
    subst arranged
    refine .written_unless fun some => absorbs_block tagged fun tail => ?_
    exact readBlock_encode (fits_of_written fits some).payload tail
  | word32 =>
    subst arranged
    refine .written_unless fun some => absorbs_number tagged fun tail => ?_
    have fits : UInt32.toNat w < 2 ^ 64 := Nat.lt_trans (UInt32.toNat_lt w) (by decide)
    rw [merge, readVarint_encode fits]
    simp [expectType, bind, Except.bind, pure, Except.pure]
  | word64 =>
    subst arranged
    refine .written_unless fun some => absorbs_number tagged fun tail => ?_
    rw [merge, readVarint_encode (UInt64.toNat_lt w)]
    simp [expectType, bind, Except.bind, pure, Except.pure]
  | flag =>
    subst arranged
    refine .written_unless fun some => absorbs_number tagged fun tail => ?_
    cases w with
    | false => contradiction
    | true => rfl
  | code =>
    subst arranged
    refine .written_unless fun some => absorbs_number tagged fun tail => ?_
    exact merge_code w v tail
  | texts =>
    subst arranged
    exact texts_absorbed tagged w fits v

end Scalar

namespace Schema
variable {t depth : Nat} {name : String} {inner : Schema} {items : List Item}

/-- Merging the items of a sub-message that is absent or present. -/
def mergeOne (inner : Schema) (name owner field : String) (depth _ : Nat) (type : WireType)
    (m : Option inner.Record) (bytes : Bytes) : Except DecodeError (Option inner.Record × Bytes) :=
  ((mergeBlock (inner.mergeField name) depth type (m.getD inner.empty) bytes).mapError
    (·.inField owner field)).map fun (m, bytes) => (some m, bytes)

/-- Merging the items of sub-messages that are listed. -/
def mergeEach (inner : Schema) (name owner field : String) (depth _ : Nat) (type : WireType)
    (ms : List inner.Record) (bytes : Bytes) : Except DecodeError (List inner.Record × Bytes) :=
  ((mergeBlock (inner.mergeField name) depth type inner.empty bytes).mapError
    (·.inField owner field)).map fun (m, bytes) => (ms ++ [m], bytes)

theorem map_mergeOne {γ : Type} (inner : Schema) (name owner field : String) (depth tag : Nat)
    (type : WireType) (m : Option inner.Record) (bytes : Bytes) (into : Option inner.Record → γ) :
    (((mergeBlock (inner.mergeField name) depth type (m.getD inner.empty) bytes).mapError
      (·.inField owner field)).map fun (m, bytes) => (into (some m), bytes)) =
    (mergeOne inner name owner field depth tag type m bytes).map fun (m, rest) => (into m, rest) := by
  rw [mergeOne]
  cases mergeBlock (inner.mergeField name) depth type (m.getD inner.empty) bytes <;> rfl

theorem map_mergeEach {γ : Type} (inner : Schema) (name owner field : String) (depth tag : Nat)
    (type : WireType) (ms : List inner.Record) (bytes : Bytes) (into : List inner.Record → γ) :
    (((mergeBlock (inner.mergeField name) depth type inner.empty bytes).mapError
      (·.inField owner field)).map fun (m, bytes) => (into (ms ++ [m]), bytes)) =
    (mergeEach inner name owner field depth tag type ms bytes).map fun (ms, rest) => (into ms, rest) := by
  rw [mergeEach]
  cases mergeBlock (inner.mergeField name) depth type inner.empty bytes <;> rfl

section
variable (absorbs : ∀ (m n : inner.Record) (inside : List Item), inner.Arranges n inside →
  (∀ x ∈ inside, x.Fits) → Absorbs (inner.mergeField name depth) m inside (inner.combine m n))
include absorbs

/-- An arranged sub-message is merged one level further down. -/
theorem block_merged {m n : inner.Record} {inside : List Item} (arranged : inner.Arranges n inside)
    (fits : (Item.block t (inside.flatMap Item.bytes)).Fits) (tail : Bytes) :
    mergeBlock (inner.mergeField name) (depth + 1) .lengthDelimited m
      ((Item.block t (inside.flatMap Item.bytes)).value ++ tail) = .ok (inner.combine m n, tail) :=
  (absorbs m n inside arranged (fits_of_length fits.payload)).mergeBlock fits.payload tail

theorem one_absorbed (owner field : String) (tagged : IsTag t) (m : Option inner.Record) {n : Option inner.Record}
    (arranged : List.Forall₂ (Item.Holds inner.Arranges t) n.toList items)
    (fits : ∀ x ∈ items, x.Fits) :
    Absorbs (mergeOne inner name owner field (depth + 1)) m items (m.merge inner.combine n) := by
  cases n with
  | none =>
    cases arranged
    cases m <;> exact .done _
  | some n =>
    cases arranged with
    | cons first none =>
      cases none
      obtain ⟨inside, arranged, rfl⟩ := first
      have merged := block_merged absorbs (m := m.getD inner.empty) arranged (fits _ List.mem_cons_self)
      have combined : some (inner.combine (m.getD inner.empty) n) = m.merge inner.combine (some n) := by
        cases m with
        | none => exact congrArg some (inner.combine_empty n)
        | some m => rfl
      refine .single (Item.ofField_keyed tagged _ _) fun tail => ?_
      change mergeOne inner name owner field (depth + 1) t .lengthDelimited m _ = _
      rw [mergeOne, merged, ← combined]
      rfl

theorem each_absorbed (owner field : String) (tagged : IsTag t) (before : List inner.Record) {ns : List inner.Record}
    (arranged : List.Forall₂ (Item.Holds inner.Arranges t) ns items) (fits : ∀ x ∈ items, x.Fits) :
    Absorbs (mergeEach inner name owner field (depth + 1)) before items (before ++ ns) := by
  induction arranged generalizing before with
  | nil =>
    rw [List.append_nil]
    exact .done before
  | @cons n x ns items first _ ih =>
    have ⟨fitsFirst, fitsLater⟩ := List.forall_mem_cons.mp fits
    obtain ⟨inside, arranged, rfl⟩ := first
    have later := ih (before ++ [n]) fitsLater
    rw [List.append_assoc] at later
    have merged := block_merged absorbs (m := inner.empty) arranged fitsFirst
    refine .next (Item.ofField_keyed tagged _ _) (fun tail => ?_) later
    change mergeEach inner name owner field (depth + 1) t .lengthDelimited before _ = _
    rw [mergeEach, merged, inner.combine_empty]
    rfl

end

/-- Items that arrange the encoding of a record are merged into any other, field by field. -/
theorem arranged_absorbed (s : Schema) (owner : String) {depth : Nat} (well : s.wellFormed = true)
    (shallow : s.depth < depth) {q : s.Record} {items : List Item} (arranged : s.Arranges q items)
    (fits : ∀ x ∈ items, x.Fits) (r : s.Record) :
    Absorbs (s.mergeField owner depth) r items (s.combine r q) := by
  -- The items of one field, and those of all others, are items of the whole.
  have kept {items : List Item} (fits : ∀ x ∈ items, x.Fits) (p : Item → Bool) :
      ∀ x ∈ items.filter p, x.Fits :=
    fun x member => fits x (List.mem_of_mem_filter member)
  have valid := tags_valid well
  induction s generalizing owner depth items with
  | done =>
    obtain ⟨level, rfl⟩ := Nat.exists_eq_add_of_lt shallow
    induction items with
    | nil => exact .done ()
    | cons x items ih =>
      obtain ⟨first, later⟩ := List.forall_mem_cons.mp arranged
      refine .next first.toKeyed (fun tail => ?_) (ih later (List.forall_mem_cons.mp fits).2)
      rw [mergeField, skipField_value first.valued]
      rfl
  | scalar t field kind rest ih =>
    obtain ⟨v, r⟩ := r
    obtain ⟨w, q⟩ := q
    obtain ⟨ofField, others⟩ := arranged
    simp only [wellFormed, Bool.and_eq_true, decide_eq_true_eq] at well
    obtain ⟨tagged, valid⟩ := List.forall_mem_cons.mp valid
    have first := Scalar.arranged_absorbed (causeInField owner field) tagged ofField (kept fits _) v
    have later := ih owner well.2 shallow others (kept fits _) r valid
    exact first.both later (fun _ _ _ _ => if_pos rfl) (fun _ _ _ _ _ apart => if_neg apart)
  | message t field name inner rest ihInner ih =>
    obtain ⟨m, r⟩ := r
    obtain ⟨n, q⟩ := q
    obtain ⟨ofField, others⟩ := arranged
    simp only [wellFormed, Bool.and_eq_true, decide_eq_true_eq] at well
    obtain ⟨⟨-, wellInner⟩, well⟩ := well
    obtain ⟨tagged, valid⟩ := List.forall_mem_cons.mp valid
    obtain ⟨deep, shallow⟩ := Nat.max_lt.mp shallow
    obtain ⟨level, rfl⟩ := Nat.exists_eq_add_of_lt deep
    have first := one_absorbed (fun m n inside arranged fits => ihInner name wellInner
      (Nat.lt_add_right level inner.depth.lt_succ_self) arranged fits m (tags_valid wellInner))
      owner field tagged m ofField (kept fits _)
    have later := ih owner well shallow others (kept fits _) r valid
    exact first.both later
      (fun type m r bytes => (if_pos rfl).trans
        (map_mergeOne inner name owner field _ t type m bytes (·, r)))
      (fun _ _ _ _ _ apart => if_neg apart)
  | messages t field name inner rest ihInner ih =>
    obtain ⟨ms, r⟩ := r
    obtain ⟨ns, q⟩ := q
    obtain ⟨ofField, others⟩ := arranged
    simp only [wellFormed, Bool.and_eq_true, decide_eq_true_eq] at well
    obtain ⟨⟨-, wellInner⟩, well⟩ := well
    obtain ⟨tagged, valid⟩ := List.forall_mem_cons.mp valid
    obtain ⟨deep, shallow⟩ := Nat.max_lt.mp shallow
    obtain ⟨level, rfl⟩ := Nat.exists_eq_add_of_lt deep
    have first := each_absorbed (fun m n inside arranged fits => ihInner name wellInner
      (Nat.lt_add_right level inner.depth.lt_succ_self) arranged fits m (tags_valid wellInner))
      owner field tagged ms ofField (kept fits _)
    have later := ih owner well shallow others (kept fits _) r valid
    exact first.both later
      (fun type ms r bytes => (if_pos rfl).trans
        (map_mergeEach inner name owner field _ t type ms bytes (·, r)))
      (fun _ _ _ _ _ apart => if_neg apart)

end Schema
end Wire
end IPsecControl
