import IPsecControl.Message.Catalog
import IPsecControl.Proofs.Wire.Steps

/-! Round trips. The encoding of a record consists of fields that a decoder merges one by one, and
the merged fields are the record. -/
namespace IPsecControl
namespace Wire
open Text

namespace Schema

/-- The tags of the fields of a message, without those of its sub-messages. -/
def tags : Schema → List Nat
  | .done => []
  | .scalar tag _ _ rest | .message tag _ _ _ rest | .messages tag _ _ _ rest => tag :: rest.tags

/-- Each field of a message has a tag of its own that fits a key. -/
def wellFormed : Schema → Bool
  | .done => true
  | .scalar tag _ _ rest => 0 < tag && tag < 2 ^ 29 && tag ∉ rest.tags && rest.wellFormed
  | .message tag _ _ inner rest | .messages tag _ _ inner rest =>
    0 < tag && tag < 2 ^ 29 && tag ∉ rest.tags && inner.wellFormed && rest.wellFormed

/-- How deep sub-messages nest. -/
def depth : Schema → Nat
  | .done => 0
  | .scalar _ _ _ rest => rest.depth
  | .message _ _ _ inner rest | .messages _ _ _ inner rest => Nat.max (inner.depth + 1) rest.depth

end Schema

/-- The lengths that are written with a value fit 64 bits. -/
def Scalar.Short : (k : Scalar) → k.Value → Prop
  | .text, (s : String) => s.utf8ByteSize < 2 ^ 64
  | .bytes, (b : Bytes) => b.length < 2 ^ 64
  | .texts, (ss : List String) => ∀ s ∈ ss, s.utf8ByteSize < 2 ^ 64
  | .codes, (cs : List Int32) => packedSize cs < 2 ^ 64
  | .word32, _ | .word64, _ | .flag, _ | .code, _ => True

/-- The lengths that are written in a record fit 64 bits. The record itself may be longer. -/
def Schema.Short : (s : Schema) → s.Record → Prop
  | .done, _ => True
  | .scalar _ _ kind rest, (v, r) => kind.Short v ∧ rest.Short r
  | .message _ _ _ inner rest, (m, r) =>
    (∀ m' ∈ m, inner.size m' < 2 ^ 64 ∧ inner.Short m') ∧ rest.Short r
  | .messages _ _ _ inner rest, (ms, r) =>
    (∀ m ∈ ms, inner.size m < 2 ^ 64 ∧ inner.Short m) ∧ rest.Short r

/-- The byte string consists of fields with the given tags, each of which is merged into the value
whatever comes after it. -/
inductive Merges {α : Type} (merge : Nat → WireType → α → Bytes → Except DecodeError (α × Bytes))
    (tags : Nat → Prop) : α → Bytes → α → Prop where
  | done (a : α) : Merges merge tags a [] a
  | next {a b c : α} {tag : Nat} {type : WireType} {value rest : Bytes} (tagged : tags tag)
      (merged : ∀ tail, merge tag type a (value ++ tail) = .ok (b, tail))
      (later : Merges merge tags b rest c) : Merges merge tags a (key tag type ++ value ++ rest) c

namespace Merges
variable {α β : Type} {tags : Nat → Prop} {a b c : α} {bytes more : Bytes}
variable {merge : Nat → WireType → α → Bytes → Except DecodeError (α × Bytes)}

theorem single {tag : Nat} {type : WireType} (tagged : tags tag)
    (merged : ∀ tail, merge tag type a (bytes ++ tail) = .ok (b, tail)) :
    Merges merge tags a (key tag type ++ bytes) b := by
  rw [← List.append_nil (key tag type ++ bytes)]
  exact .next tagged merged (.done b)

theorem append (first : Merges merge tags a bytes b) (later : Merges merge tags b more c) :
    Merges merge tags a (bytes ++ more) c := by
  induction first with
  | done => exact later
  | next tagged merged _ ih =>
    rw [List.append_assoc]
    exact .next tagged merged (ih later)

/-- Fields are merged into a part of a larger value, if the larger merge hands those with their tags
on to the part. -/
theorem within {whole : Nat → WireType → β → Bytes → Except DecodeError (β × Bytes)}
    (into : α → β) {wider : Nat → Prop} (widens : ∀ tag, tags tag → wider tag)
    (hands : ∀ tag type a bytes, tags tag →
      whole tag type (into a) bytes = (merge tag type a bytes).map fun (a, rest) => (into a, rest))
    (merges : Merges merge tags a bytes b) : Merges whole wider (into a) bytes (into b) := by
  induction merges with
  | done => exact .done _
  | next tagged merged _ ih =>
    exact .next (widens _ tagged) (fun tail => by rw [hands _ _ _ _ tagged, merged]; rfl) ih

theorem steps (merges : Merges merge tags a bytes b) (valid : ∀ tag, tags tag → IsTag tag) :
    Steps (mergeNext merge) a bytes b := by
  induction merges with
  | done => exact .done _
  | @next a b c tag type value rest tagged merged _ ih =>
    refine .next ?_ (fun tail => ?_) ih
    · refine List.append_ne_nil_of_left_ne_nil ?_ _
      exact List.ne_nil_of_length_pos (key_length tag type ▸ Varint.size_pos _)
    · rw [mergeNext, List.append_assoc, readKey_key (valid tag tagged)]
      exact merged tail

end Merges

/-- What is written for a field that repeats is merged element by element. -/
theorem Merges.flatMap {α β : Type} {tags : Nat → Prop}
    {merge : Nat → WireType → β → Bytes → Except DecodeError (β × Bytes)}
    {write : α → Bytes} (into : List α → β) {as : List α}
    (element : ∀ before, ∀ a ∈ as, Merges merge tags (into before) (write a) (into (before ++ [a])))
    (before : List α) : Merges merge tags (into before) (as.flatMap write) (into (before ++ as)) := by
  induction as generalizing before with
  | nil =>
    rw [List.append_nil]
    exact .done _
  | cons a rest ih =>
    have later := ih (fun before b member => element before b (List.mem_cons_of_mem a member))
      (before ++ [a])
    rw [List.append_assoc] at later
    exact (element before a List.mem_cons_self).append later

/-- A length and the fields of a sub-message are merged one level further down. -/
theorem mergeBlock_encode {α : Type} {tags : Nat → Prop} {a b : α} {bytes : Bytes} {depth : Nat}
    {merge : Nat → Nat → WireType → α → Bytes → Except DecodeError (α × Bytes)}
    (merges : Merges (merge depth) tags a bytes b) (valid : ∀ tag, tags tag → IsTag tag)
    (fits : bytes.length < 2 ^ 64) (tail : Bytes) :
    mergeBlock merge (depth + 1) .lengthDelimited a (Varint.encode bytes.length ++ bytes ++ tail) =
      .ok (b, tail) := by
  have block := (merges.steps valid).withinBlock (⟨·, []⟩) fits tail
  simpa [mergeBlock, expectType, bind, Except.bind] using block

theorem length_of_mem_flatMap {α : Type} {write : α → Bytes} {a : α} {as : List α} (member : a ∈ as) :
    (write a).length ≤ (as.flatMap write).length := by
  obtain ⟨before, after, rfl⟩ := List.append_of_mem member
  simp
  omega

/-- The payload of a block is shorter than the block. -/
theorem payload_lt {tag bound : Nat} {payload : Bytes} (fits : (block tag payload).length < bound) :
    payload.length < bound := by
  rw [block_length, blockSize] at fits
  omega

/-- A field that holds its default is not written. -/
theorem Merges.unless {α : Type} {tags : Nat → Prop} {a b : α} {bytes : Bytes} {p : Prop} [Decidable p]
    {merge : Nat → WireType → α → Bytes → Except DecodeError (α × Bytes)}
    (default : p → b = a) (merges : ¬ p → Merges merge tags a bytes b) :
    Merges merge tags a (if p then [] else bytes) b := by
  split
  next holds => exact default holds ▸ .done _
  next fails => exact merges fails

namespace Scalar
variable (k : Scalar) (fail : DecodeCause → DecodeError) {tag : Nat} {v w : k.Value} {value : Bytes}

/-- Merging the values of one field. -/
def mergeValue (_ : Nat) (type : WireType) (v : k.Value) (bytes : Bytes) :
    Except DecodeError (k.Value × Bytes) :=
  (k.merge type v bytes).mapError fail

variable {k fail}

theorem mergeValue_single {type : WireType}
    (merged : ∀ tail, k.merge type v (value ++ tail) = .ok (w, tail)) :
    Merges (k.mergeValue fail) (· = tag) v (key tag type ++ value) w :=
  .single rfl fun tail => by rw [mergeValue, merged]; rfl

theorem mergeValue_block
    (merged : ∀ tail, k.merge .lengthDelimited v (Varint.encode value.length ++ value ++ tail) =
      .ok (w, tail)) : Merges (k.mergeValue fail) (· = tag) v (block tag value) w := by
  rw [block, List.append_assoc]
  exact mergeValue_single merged

theorem mergeValue_number {n : Nat}
    (merged : ∀ tail, k.merge .varint v (Varint.encode n ++ tail) = .ok (w, tail)) :
    Merges (k.mergeValue fail) (· = tag) v (numberField tag n) w :=
  mergeValue_single merged

variable (k fail)

/-- Merging a value as it is written for a field gives the value. -/
theorem merges (tag : Nat) (v : k.Value) (short : k.Short v) :
    Merges (k.mergeValue fail) (· = tag) k.default (k.encode tag v) v := by
  cases k with
  | text =>
    refine .unless id fun _ => mergeValue_block fun tail => ?_
    exact readText_encode short tail
  | bytes =>
    refine .unless id fun _ => mergeValue_block fun tail => ?_
    exact readBlock_encode short tail
  | word32 =>
    refine .unless id fun some => mergeValue_number fun tail => ?_
    have fits : UInt32.toNat v < 2 ^ 64 := Nat.lt_trans (UInt32.toNat_lt v) (by decide)
    rw [merge, readVarint_encode fits]
    simp [expectType, bind, Except.bind, pure, Except.pure]
  | word64 =>
    refine .unless id fun some => mergeValue_number fun tail => ?_
    rw [merge, readVarint_encode (UInt64.toNat_lt v)]
    simp [expectType, bind, Except.bind, pure, Except.pure]
  | flag =>
    refine .unless id fun some => mergeValue_number fun tail => ?_
    cases v with
    | false => contradiction
    | true => rfl
  | code =>
    refine .unless id fun some => mergeValue_number fun tail => ?_
    rw [merge, readVarint_encode (codeNumber_lt v)]
    simp [expectType, bind, Except.bind, pure, Except.pure, numberCode_codeNumber]
  | texts =>
    refine Merges.flatMap id (fun before s member => mergeValue_block fun tail => ?_) []
    rw [merge, readText_encode (short s member) tail]
    simp [expectType, bind, Except.bind, pure, Except.pure]
  | codes =>
    refine .unless id fun _ => mergeValue_block fun tail => ?_
    rw [Short, ← packed_length] at short
    exact (packed_steps [] v).withinBlock id short tail

variable {k} in
/-- No length within a field is greater than the field. -/
theorem short_of_fits {v : k.Value} (fits : (k.encode tag v).length < 2 ^ 64) : k.Short v := by
  cases k with
  | text =>
    by_cases empty : v = ""
    · simp [Short, empty]
    · rw [encode, if_neg empty] at fits
      exact payload_lt fits
  | bytes =>
    by_cases empty : v = []
    · simp [Short, empty]
    · rw [encode, if_neg empty] at fits
      exact payload_lt fits
  | texts =>
    intro s member
    rw [encode] at fits
    have within := Nat.lt_of_le_of_lt (length_of_mem_flatMap member) fits
    exact payload_lt within
  | codes =>
    by_cases empty : v = []
    · simp [Short, empty, packedSize, totalSize]
    · rw [encode, if_neg empty] at fits
      rw [Short, ← packed_length]
      exact payload_lt fits
  | word32 | word64 | flag | code => trivial

end Scalar

namespace Schema
variable {t depth : Nat} {field name owner : String} {inner rest : Schema}

/-- The tags of a well-formed schema fit a key. -/
theorem tags_valid {s : Schema} (well : s.wellFormed = true) : ∀ tag ∈ s.tags, IsTag tag := by
  induction s with
  | done => simp [tags]
  | scalar tag _ _ rest ih =>
    simp only [wellFormed, Bool.and_eq_true, decide_eq_true_eq] at well
    obtain ⟨⟨⟨positive, bounded⟩, -⟩, well⟩ := well
    exact List.forall_mem_cons.mpr ⟨⟨positive, bounded⟩, ih well⟩
  | message tag _ _ _ rest _ ih | messages tag _ _ _ rest _ ih =>
    simp only [wellFormed, Bool.and_eq_true, decide_eq_true_eq] at well
    obtain ⟨⟨⟨⟨positive, bounded⟩, -⟩, -⟩, well⟩ := well
    exact List.forall_mem_cons.mpr ⟨⟨positive, bounded⟩, ih well⟩

/-- A sub-message is merged one level further down. -/
theorem subMessage_merged {m : inner.Record} (well : inner.wellFormed = true)
    (merges : Merges (inner.mergeField name depth) (· ∈ inner.tags) inner.empty (inner.encode m) m)
    (fits : inner.size m < 2 ^ 64) (tail : Bytes) :
    mergeBlock (inner.mergeField name) (depth + 1) .lengthDelimited inner.empty
      (Varint.encode (inner.size m) ++ inner.encode m ++ tail) = .ok (m, tail) := by
  rw [← encode_length] at fits ⊢
  exact mergeBlock_encode merges (tags_valid well) fits tail

section
variable {m : inner.Record} (r : rest.Record)
variable (merged : ∀ tail, mergeBlock (inner.mergeField name) depth .lengthDelimited inner.empty
  (Varint.encode (inner.size m) ++ inner.encode m ++ tail) = .ok (m, tail))
include merged

theorem message_merges :
    Merges ((message t field name inner rest).mergeField owner depth) (· ∈ t :: rest.tags) (none, r)
      (key t .lengthDelimited ++ Varint.encode (inner.size m) ++ inner.encode m) (some m, r) := by
  rw [List.append_assoc]
  refine .single List.mem_cons_self fun tail => ?_
  rw [mergeField, if_pos rfl, Option.getD_none, merged]
  rfl

theorem messages_merges (before : List inner.Record) :
    Merges ((messages t field name inner rest).mergeField owner depth) (· ∈ t :: rest.tags) (before, r)
      (key t .lengthDelimited ++ Varint.encode (inner.size m) ++ inner.encode m)
      (before ++ [m], r) := by
  rw [List.append_assoc]
  refine .single List.mem_cons_self fun tail => ?_
  rw [mergeField, if_pos rfl, merged]
  rfl

end

theorem length_written {m : inner.Record} {bound : Nat}
    (fits : (key t .lengthDelimited ++ Varint.encode (inner.size m) ++ inner.encode m).length < bound) :
    (inner.encode m).length < bound := by
  simp only [List.length_append] at fits
  omega

/-- The encoding of a record is merged into it, field by field. -/
theorem merges (s : Schema) (owner : String) {depth : Nat} (well : s.wellFormed = true)
    (shallow : s.depth ≤ depth) (r : s.Record) (short : s.Short r) :
    Merges (s.mergeField owner depth) (· ∈ s.tags) s.empty (s.encode r) r := by
  induction s generalizing owner depth with
  | done => exact .done ()
  | scalar t field kind rest ih =>
    obtain ⟨v, r⟩ := r
    obtain ⟨shortValue, short⟩ := short
    simp only [wellFormed, Bool.and_eq_true, decide_eq_true_eq] at well
    obtain ⟨⟨-, fresh⟩, well⟩ := well
    have first := kind.merges (causeInField owner field) t v shortValue
    -- The fields of the rest have other tags, so they are handed on past the first field.
    have apart : ∀ tag ∈ rest.tags, tag ≠ t := fun _ other same => fresh (same ▸ other)
    have later := ih owner well shallow r short
    refine Merges.append (b := (v, rest.empty)) (.within (fun v => (v, rest.empty)) ?_ ?_ first)
      (.within (fun r => (v, r)) (fun _ => List.mem_cons_of_mem t) ?_ later)
    · exact fun _ same => same ▸ List.mem_cons_self
    · exact fun _ _ _ _ same => if_pos same
    · exact fun tag _ _ _ other => if_neg (apart tag other)
  | message t field name inner rest ihInner ih =>
    obtain ⟨m, r⟩ := r
    obtain ⟨shortInner, short⟩ := short
    simp only [wellFormed, Bool.and_eq_true, decide_eq_true_eq] at well
    obtain ⟨⟨⟨-, fresh⟩, wellInner⟩, well⟩ := well
    obtain ⟨deep, shallow⟩ := Nat.max_le.mp shallow
    obtain ⟨level, rfl⟩ := Nat.exists_eq_add_of_lt deep
    have apart : ∀ tag ∈ rest.tags, tag ≠ t := fun _ other same => fresh (same ▸ other)
    have later := ih owner well shallow r short
    refine Merges.append (b := (m, rest.empty)) ?_
      (.within (fun r => (m, r)) (fun _ => List.mem_cons_of_mem t) ?_ later)
    · cases m with
      | none => exact .done _
      | some m =>
        obtain ⟨fits, shortInner⟩ := shortInner m rfl
        have inside := ihInner name wellInner (Nat.le_add_right _ level) m shortInner
        exact message_merges rest.empty (subMessage_merged wellInner inside fits)
    · exact fun tag _ _ _ other => if_neg (apart tag other)
  | messages t field name inner rest ihInner ih =>
    obtain ⟨ms, r⟩ := r
    obtain ⟨shortInner, short⟩ := short
    simp only [wellFormed, Bool.and_eq_true, decide_eq_true_eq] at well
    obtain ⟨⟨⟨-, fresh⟩, wellInner⟩, well⟩ := well
    obtain ⟨deep, shallow⟩ := Nat.max_le.mp shallow
    obtain ⟨level, rfl⟩ := Nat.exists_eq_add_of_lt deep
    have apart : ∀ tag ∈ rest.tags, tag ≠ t := fun _ other same => fresh (same ▸ other)
    have later := ih owner well shallow r short
    refine Merges.append (b := (ms, rest.empty)) ?_
      (.within (fun r => (ms, r)) (fun _ => List.mem_cons_of_mem t) ?_ later)
    · refine Merges.flatMap (fun ms => (ms, rest.empty)) (fun before m member => ?_) []
      obtain ⟨fits, shortInner⟩ := shortInner m member
      have inside := ihInner name wellInner (Nat.le_add_right _ level) m shortInner
      exact messages_merges rest.empty (subMessage_merged wellInner inside fits) before
    · exact fun tag _ _ _ other => if_neg (apart tag other)

/-- No length within a record is greater than the record. -/
theorem short_of_fits {s : Schema} {r : s.Record} (fits : (s.encode r).length < 2 ^ 64) :
    s.Short r := by
  induction s with
  | done => trivial
  | scalar t field kind rest ih =>
    obtain ⟨v, r⟩ := r
    rw [encode, List.length_append] at fits
    constructor
    · exact Scalar.short_of_fits (Nat.lt_of_le_of_lt (Nat.le_add_right _ _) fits)
    · exact ih (Nat.lt_of_le_of_lt (Nat.le_add_left _ _) fits)
  | message t field name inner rest ihInner ih =>
    obtain ⟨m, r⟩ := r
    simp only [encode, List.length_append] at fits
    constructor
    · rintro m rfl
      have inside := length_written (Nat.lt_of_le_of_lt (Nat.le_add_right _ _) fits)
      exact ⟨encode_length inner m ▸ inside, ihInner inside⟩
    · exact ih (Nat.lt_of_le_of_lt (Nat.le_add_left _ _) fits)
  | messages t field name inner rest ihInner ih =>
    obtain ⟨ms, r⟩ := r
    rw [encode, List.length_append] at fits
    constructor
    · intro m member
      have written := Nat.lt_of_le_of_lt (Nat.le_add_right _ _) fits
      have within := Nat.lt_of_le_of_lt (length_of_mem_flatMap member) written
      have inside := length_written within
      exact ⟨encode_length inner m ▸ inside, ihInner inside⟩
    · exact ih (Nat.lt_of_le_of_lt (Nat.le_add_left _ _) fits)

/-- A record is read back from its encoding. -/
theorem decode_encode (s : Schema) (owner : String) (well : s.wellFormed = true)
    (shallow : s.depth ≤ depthLimit) (r : s.Record) (short : s.Short r) :
    s.decode owner (s.encode r) = .ok r := by
  have steps := (s.merges owner well shallow r short).steps (tags_valid well)
  have read := steps.repeatStep [] (Nat.le_refl _)
  rw [List.append_nil, List.length_nil] at read
  rw [decode, merge, read]
  rfl

end Schema
end Wire

namespace Message
variable {α : Type} [Message α]

/-- The size of a message is the length of its encoding. -/
theorem encode_length (m : α) : (encode m).length = size m := (schema α).encode_length (toRecord m)

/-- The lengths that are written in a message fit 64 bits. -/
def Short (m : α) : Prop := (schema α).Short (toRecord m)

theorem short_of_fits {m : α} (fits : (encode m).length < 2 ^ 64) : Short m :=
  Wire.Schema.short_of_fits fits

section
variable (well : (schema α).wellFormed = true) (shallow : (schema α).depth ≤ Wire.depthLimit) (m : α)
include well shallow

theorem decode_encode_of_short (short : Short m) : decode (encode m) = .ok m := by
  rw [decode, encode, (schema α).decode_encode (name α) well shallow _ short]
  simp [Except.map]

/-- A message is read back from its encoding. -/
theorem decode_encode (fits : (encode m).length < 2 ^ 64) : decode (encode m) = .ok m :=
  decode_encode_of_short well shallow m (short_of_fits fits)

end

/-! ### The messages of the control plane -/

theorem catalog_wellFormed :
    ∀ d ∈ catalog, d.schema.wellFormed = true ∧ d.schema.depth ≤ Wire.depthLimit := by
  decide

/-- Every message of the control plane is read back from its encoding, and has the size that is
computed for it. -/
theorem catalog_round_trip (listed : descriptor α ∈ catalog) (m : α) (short : Short m) :
    decode (encode m) = .ok m ∧ size m = (encode m).length := by
  obtain ⟨well, shallow⟩ := catalog_wellFormed (descriptor α) listed
  exact ⟨decode_encode_of_short well shallow m short, (encode_length m).symm⟩

/-- A connection with codes that mean nothing, one of them negative, and an empty child. -/
def oddConnection : Connection where
  name := "öst"
  localAuth := some { auth := -1, id := "left" }
  children := [{ espProposals := some { cryptoAlg := [12, -2147483648, 7], dhgroups := [0] },
                 localTs := some { ts := [{}, { cidr := "10.0.0.0/8" }] } }, {}]
  proposals := some {}

theorem catalog_round_trip_odd :
    descriptor LoadConnRequest ∈ catalog ∧
      Short ({ connection := some oddConnection } : LoadConnRequest) ∧
      decode (encode ({ connection := some oddConnection } : LoadConnRequest)) =
        .ok ({ connection := some oddConnection } : LoadConnRequest) ∧
      size ({ connection := some oddConnection } : LoadConnRequest) =
        (encode ({ connection := some oddConnection } : LoadConnRequest)).length := by
  have listed : descriptor LoadConnRequest ∈ catalog := by simp [catalog]
  have short : Short ({ connection := some oddConnection } : LoadConnRequest) :=
    short_of_fits (by decide)
  exact ⟨listed, short, catalog_round_trip listed _ short⟩

end Message
end IPsecControl
