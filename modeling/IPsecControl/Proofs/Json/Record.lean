import IPsecControl.Json.Record
import IPsecControl.Proofs.Json.Text

/-! Records in JSON texts. What is written of a record consists of members that the reader takes one by
one, each into a field that is still empty, so the record is read back. -/
namespace IPsecControl.Json
open Reader Text Fields

variable {α β : Type}

/-- The bytes start with a byte that a value can start with. -/
def Begins (bytes : Bytes) : Prop :=
  ∃ b rest, bytes = b :: rest ∧ isBlankByte b = false ∧ b ≠ closeBracket

/-- The bytes are those of a value, which is read from them whatever comes after. -/
structure Reads (read : Reader α) (bytes : Bytes) (a : α) : Prop where
  begins : Begins bytes
  reads : ∀ rest, read (bytes ++ rest) = .ok (a, rest)

theorem peek_cons {b : UInt8} (shown : isBlankByte b = false) (rest : Bytes) :
    peek (b :: rest) = .ok (some b, b :: rest) := by
  rw [peek, List.dropWhile_cons_of_neg (by simp [shown])]
  rfl

theorem skip_cons (b : UInt8) (rest : Bytes) : skip (b :: rest) = .ok ((), rest) := rfl

theorem textBytes_append (s : String) (rest : Bytes) :
    textBytes s ++ rest = quote :: ((Utf8.bytes s).flatMap escapedByte ++ 34 :: rest) := by
  simp [textBytes, quote]

theorem textBytes_begins (s : String) : Begins (textBytes s) :=
  ⟨_, _, rfl, by decide, by decide⟩

theorem readString_reads (s : String) : Reads readString (textBytes s) s where
  begins := textBytes_begins s
  reads rest := by
    rw [textBytes_append, readString, bind_ok (peek_cons (by decide) _)]
    simp only [if_true]
    rw [bind_ok (skip_cons _ _)]
    exact readText_escaped s rest

/-! ### Lists -/

/-- Behind the first item each one has a comma in front. -/
theorem intercalate_cons {γ : Type} (c : γ) (first : List γ) (rest : List (List γ)) :
    List.intercalate [c] (first :: rest) = first ++ rest.flatMap (c :: ·) := by
  induction rest generalizing first with
  | nil => simp
  | cons second rest ih =>
    rw [List.intercalate_cons_cons, ih, List.flatMap_cons]
    simp

theorem moreItems_end (first : Bool) (rest : Bytes) :
    moreItems first (closeBracket :: rest) = .ok (false, closeBracket :: rest) := by
  rw [moreItems, bind_ok (peek_cons (by decide) _)]
  rfl

theorem moreItems_first {bytes : Bytes} (begins : Begins bytes) (rest : Bytes) :
    moreItems true (bytes ++ rest) = .ok (true, bytes ++ rest) := by
  obtain ⟨b, bytes, rfl, shown, opens⟩ := begins
  rw [moreItems, List.cons_append, bind_ok (peek_cons shown _)]
  simp only [if_neg opens, if_true]
  rfl

theorem moreItems_later {bytes : Bytes} (begins : Begins bytes) (rest : Bytes) :
    moreItems false (comma :: (bytes ++ rest)) = .ok (true, bytes ++ rest) := by
  obtain ⟨b, bytes, rfl, shown, opens⟩ := begins
  rw [moreItems, bind_ok (peek_cons (by decide) _)]
  simp only [if_neg (by decide : comma ≠ closeBracket), Bool.false_eq_true, if_false, if_true]
  rw [bind_ok (skip_cons _ _), List.cons_append, bind_ok (peek_cons shown _)]
  simp only [if_neg opens]
  rfl

theorem endList_end (rest : Bytes) : endList (closeBracket :: rest) = .ok ((), rest) := by
  rw [endList, bind_ok (peek_cons (by decide) _)]
  rfl

section lists
variable {item : Reader α} {write : α → Bytes}

theorem readItems_later {as : List α} (reads : ∀ a ∈ as, Reads item (write a) a) (rest : Bytes)
    {fuel : Nat} (enough : as.length < fuel) :
    readItems item fuel false ((as.map write).flatMap (comma :: ·) ++ closeBracket :: rest) =
      .ok (as, closeBracket :: rest) := by
  induction as generalizing fuel with
  | nil =>
    obtain ⟨fuel, rfl⟩ := Nat.exists_eq_succ_of_ne_zero (Nat.ne_of_gt enough)
    rw [List.map_nil, List.flatMap_nil, List.nil_append, readItems, bind_ok (moreItems_end _ _)]
    rfl
  | cons a as ih =>
    obtain ⟨fuel, rfl⟩ := Nat.exists_eq_succ_of_ne_zero (Nat.ne_of_gt (Nat.zero_lt_of_lt enough))
    obtain ⟨first, later⟩ := List.forall_mem_cons.mp reads
    rw [List.map_cons, List.flatMap_cons, List.cons_append, List.cons_append, List.append_assoc,
      readItems, bind_ok (moreItems_later first.begins _)]
    simp only [if_true]
    rw [bind_ok (first.reads _), bind_ok (ih later (Nat.lt_of_succ_lt_succ enough))]
    rfl

theorem readItems_first {as : List α} (reads : ∀ a ∈ as, Reads item (write a) a) (rest : Bytes)
    {fuel : Nat} (enough : as.length < fuel) :
    readItems item fuel true (List.intercalate [comma] (as.map write) ++ closeBracket :: rest) =
      .ok (as, closeBracket :: rest) := by
  obtain ⟨fuel, rfl⟩ := Nat.exists_eq_succ_of_ne_zero (Nat.ne_of_gt (Nat.zero_lt_of_lt enough))
  cases as with
  | nil =>
    rw [List.map_nil, List.intercalate_nil, List.nil_append, readItems, bind_ok (moreItems_end _ _)]
    rfl
  | cons a as =>
    obtain ⟨first, later⟩ := List.forall_mem_cons.mp reads
    rw [List.map_cons, intercalate_cons, List.append_assoc, readItems,
      bind_ok (moreItems_first first.begins _)]
    simp only [if_true]
    rw [bind_ok (first.reads _), bind_ok (readItems_later later _ (Nat.lt_of_succ_lt_succ enough))]
    rfl

/-- Items that are not empty take at least as many bytes as there are items. -/
theorem length_le_intercalate {items : List Bytes} (begins : ∀ bytes ∈ items, Begins bytes) :
    items.length ≤ (List.intercalate [comma] items).length := by
  induction items with
  | nil => exact Nat.zero_le _
  | cons first rest ih =>
    obtain ⟨⟨b, bytes, rfl, -⟩, later⟩ := List.forall_mem_cons.mp begins
    have within := ih later
    rw [intercalate_cons]
    cases rest with
    | nil => simp
    | cons second rest =>
      rw [intercalate_cons] at within
      simp only [List.length_cons, List.length_append, List.flatMap_cons] at within ⊢
      omega

/-- A list is read back if its items are. -/
theorem readList_reads {as : List α} (reads : ∀ a ∈ as, Reads item (write a) a) :
    Reads (readList item) (listBytes (as.map write)) as where
  begins := ⟨openBracket, _, rfl, by decide, by decide⟩
  reads rest := by
    have begins : ∀ bytes ∈ as.map write, Begins bytes :=
      List.forall_mem_map.mpr fun a member => (reads a member).begins
    have within := length_le_intercalate begins
    rw [List.length_map] at within
    have shape : listBytes (as.map write) ++ rest =
        openBracket :: (List.intercalate [comma] (as.map write) ++ closeBracket :: rest) := by
      simp [listBytes]
    rw [shape, readList, bind_ok (peek_cons (by decide) _)]
    simp only [if_true]
    rw [bind_ok (skip_cons _ _), bind_ok (get_apply _),
      bind_ok (readItems_first reads rest (by rw [List.length_append]; omega)),
      bind_ok (endList_end rest)]
    rfl

end lists

theorem Leaf.read_reads (k : Leaf) (v : k.Value) : Reads k.read (Leaf.write k v) v := by
  cases k with
  | text => exact readString_reads v
  | texts => exact readList_reads fun s _ => readString_reads s

/-- A null is none, and anything else a value. -/
theorem orNull_reads {value : Reader α} {write : α → Bytes} (v : Option α)
    (reads : ∀ a ∈ v, Reads value (write a) a)
    (starts : ∀ a ∈ v, ∀ b ∈ (write a).head?, b ≠ 110) :
    Reads (orNull value) (v.elim (110 :: nullRest) write) v := by
  cases v with
  | none => exact ⟨⟨110, nullRest, rfl, by decide, by decide⟩, fun rest => rfl⟩
  | some a =>
    have read := reads a rfl
    refine ⟨read.begins, fun rest => ?_⟩
    have values := read.reads rest
    obtain ⟨b, bytes, written, shown, -⟩ := read.begins
    have other : b ≠ 110 := starts a rfl b (by rw [written]; rfl)
    rw [Option.elim_some, orNull]
    rw [written, List.cons_append] at values ⊢
    rw [bind_ok (peek_cons shown _)]
    simp only [Option.some.injEq, if_neg other]
    rw [bind_ok values]
    rfl

/-! ### Members -/

theorem moreMembers_end (first : Bool) (rest : Bytes) :
    moreMembers first (closeBrace :: rest) = .ok (false, closeBrace :: rest) := by
  rw [moreMembers, bind_ok (peek_cons (by decide) _)]
  rfl

theorem moreMembers_first (rest : Bytes) :
    moreMembers true (quote :: rest) = .ok (true, quote :: rest) := by
  rw [moreMembers, bind_ok (peek_cons (by decide) _)]
  rfl

theorem moreMembers_later (rest : Bytes) :
    moreMembers false (comma :: quote :: rest) = .ok (true, quote :: rest) := by
  rw [moreMembers, bind_ok (peek_cons (by decide) _)]
  simp only [if_neg (by decide : comma ≠ closeBrace), Bool.false_eq_true, if_false, if_true]
  rw [bind_ok (skip_cons _ _), bind_ok (peek_cons (by decide) _)]
  rfl

theorem endObject_end (rest : Bytes) : endObject (closeBrace :: rest) = .ok ((), rest) := by
  rw [endObject, bind_ok (peek_cons (by decide) _)]
  rfl

theorem readColon_colon (rest : Bytes) : readColon (colon :: rest) = .ok ((), rest) := by
  rw [readColon, bind_ok (peek_cons (by decide) _)]
  rfl

/-- The members with the given keys take what was found from one state to the other. -/
inductive Enters {Found : Type} (member : String → Found → Except Cause (Option (Reader Found)))
    (keys : String → Prop) : Found → List Bytes → Found → Prop where
  | done (found : Found) : Enters member keys found [] found
  | next {before found after : Found} {key : String} {value : Bytes} {later : List Bytes}
      {enter : Reader Found} (keyed : keys key) (takes : member key before = .ok (some enter))
      (reads : ∀ rest, enter (value ++ rest) = .ok (found, rest))
      (enters : Enters member keys found later after) :
      Enters member keys before (memberBytes key value :: later) after

namespace Enters
variable {Found Whole : Type} {keys : String → Prop} {before after : Found} {ms : List Bytes}
variable {member : String → Found → Except Cause (Option (Reader Found))}

/-- What is found of a part is found of the whole, if the whole hands its keys on to the part. -/
theorem within {whole : String → Whole → Except Cause (Option (Reader Whole))} (into : Found → Whole)
    {wider : String → Prop} (widens : ∀ key, keys key → wider key)
    (hands : ∀ key found, keys key → whole key (into found) =
      (member key found).map fun value => value.map fun value => do return into (← value))
    (enters : Enters member keys before ms after) : Enters whole wider (into before) ms (into after) := by
  induction enters with
  | done => exact .done _
  | @next before found _ key _ _ enter keyed takes reads _ ih =>
    have taken : whole key (into before) = .ok (some do return into (← enter)) := by
      rw [hands _ _ keyed, takes]
      rfl
    refine .next (widens _ keyed) taken (fun rest => ?_) ih
    rw [bind_ok (reads rest)]
    rfl

/-- A member is a key in quotes, a colon and its value. -/
theorem memberBytes_append (key : String) (value rest : Bytes) : memberBytes key value ++ rest =
    quote :: ((Utf8.bytes key).flatMap escapedByte ++ 34 :: (colon :: (value ++ rest))) := by
  rw [memberBytes, List.append_assoc, textBytes_append]
  rfl

/-- A member that is next is taken. -/
theorem member_step {found : Found} {key : String} {value more rest : Bytes} {enter : Reader Found}
    {fuel : Nat} {first : Bool} (takes : member key before = .ok (some enter))
    (reads : ∀ rest, enter (value ++ rest) = .ok (found, rest))
    (more_ok : moreMembers first more = .ok (true, memberBytes key value ++ rest)) :
    members member (fuel + 1) first before more = members member fuel false found rest := by
  rw [members, bind_ok more_ok]
  simp only [if_true]
  rw [memberBytes_append, bind_ok (skip_cons _ _), bind_ok (readText_escaped key _)]
  simp only [takes]
  rw [bind_ok (readColon_colon _), bind_ok (reads rest)]

theorem members_later (enters : Enters member keys before ms after) (rest : Bytes) {fuel : Nat}
    (enough : ms.length < fuel) :
    members member fuel false before (ms.flatMap (comma :: ·) ++ closeBrace :: rest) =
      .ok (.ok after, closeBrace :: rest) := by
  induction enters generalizing fuel with
  | done =>
    obtain ⟨fuel, rfl⟩ := Nat.exists_eq_succ_of_ne_zero (Nat.ne_of_gt enough)
    rw [List.flatMap_nil, List.nil_append, members, bind_ok (moreMembers_end _ _)]
    rfl
  | @next before found after key value later enter keyed takes reads _ ih =>
    obtain ⟨fuel, rfl⟩ := Nat.exists_eq_succ_of_ne_zero (Nat.ne_of_gt (Nat.zero_lt_of_lt enough))
    have taken : moreMembers false
        ((memberBytes key value :: later).flatMap (comma :: ·) ++ closeBrace :: rest) =
        .ok (true, memberBytes key value ++ (later.flatMap (comma :: ·) ++ closeBrace :: rest)) := by
      rw [List.flatMap_cons, List.cons_append, List.cons_append, List.append_assoc,
        memberBytes_append]
      exact moreMembers_later _
    rw [member_step takes reads taken]
    exact ih (Nat.lt_of_succ_lt_succ enough)

theorem members_first (enters : Enters member keys before ms after) (rest : Bytes) {fuel : Nat}
    (enough : ms.length < fuel) :
    members member fuel true before (List.intercalate [comma] ms ++ closeBrace :: rest) =
      .ok (.ok after, closeBrace :: rest) := by
  obtain ⟨fuel, rfl⟩ := Nat.exists_eq_succ_of_ne_zero (Nat.ne_of_gt (Nat.zero_lt_of_lt enough))
  cases enters with
  | done =>
    rw [List.intercalate_nil, List.nil_append, members, bind_ok (moreMembers_end _ _)]
    rfl
  | @next _ found _ key value later enter keyed takes reads enters =>
    have taken : moreMembers true
        (List.intercalate [comma] (memberBytes key value :: later) ++ closeBrace :: rest) =
        .ok (true, memberBytes key value ++ (later.flatMap (comma :: ·) ++ closeBrace :: rest)) := by
      rw [intercalate_cons, List.append_assoc, memberBytes_append]
      exact moreMembers_first _
    rw [member_step takes reads taken]
    exact enters.members_later rest (Nat.lt_of_succ_lt_succ enough)

theorem begins (enters : Enters member keys before ms after) : ∀ bytes ∈ ms, Begins bytes := by
  induction enters with
  | done => simp
  | @next _ _ _ key value _ _ _ _ _ _ ih =>
    have shape := memberBytes_append key value []
    rw [List.append_nil] at shape
    exact List.forall_mem_cons.mpr ⟨⟨quote, _, shape, by decide, by decide⟩, ih⟩

end Enters

/-- A record is read back if its members find values that are complete. -/
theorem RecordReader.read_reads {Found Values : Type} (r : RecordReader Found Values)
    {keys : String → Prop} {ms : List Bytes} {found : Found} {values : Values}
    (enters : Enters r.member keys r.nothing ms found) (complete : r.complete found = .ok values) :
    Reads r.read (objectBytes ms) values where
  begins := ⟨openBrace, _, rfl, by decide, by decide⟩
  reads rest := by
    have within := length_le_intercalate enters.begins
    have shape : objectBytes ms ++ rest =
        openBrace :: (List.intercalate [comma] ms ++ closeBrace :: rest) := by
      simp [objectBytes]
    rw [shape, read, bind_ok (peek_cons (by decide) _)]
    simp only [if_neg (by decide : openBrace ≠ openBracket), if_true]
    rw [bind_ok (skip_cons _ _), bind_ok (get_apply _),
      bind_ok (enters.members_first rest (by rw [List.length_append]; omega))]
    simp only [Except.bind, complete, settle]
    rw [bind_ok (endObject_end rest)]
    rfl

namespace Fields

/-- The keys of a record, without those of the records in it. -/
def keys : Fields → List String
  | .done => []
  | .leaf key _ rest | .record key _ _ rest | .recordOrNull key _ _ rest | .records key _ _ rest =>
    key :: rest.keys

/-- Each field of a record has a key of its own. -/
def wellFormed : Fields → Bool
  | .done => true
  | .leaf key _ rest => key ∉ rest.keys && rest.wellFormed
  | .record key _ inner rest | .recordOrNull key _ inner rest | .records key _ inner rest =>
    key ∉ rest.keys && inner.wellFormed && rest.wellFormed

/-- What is found when every field was read. -/
def full : (fs : Fields) → fs.Values → fs.Found
  | .done, _ => ()
  | .leaf _ _ rest, (v, r) => (some v, rest.full r)
  | .record _ _ _ rest, (v, r) => (some v, rest.full r)
  | .recordOrNull _ _ _ rest, (v, r) => (some v, rest.full r)
  | .records _ _ _ rest, (vs, r) => (some vs, rest.full r)

theorem complete_full (fs : Fields) (values : fs.Values) : fs.complete (fs.full values) = .ok values := by
  induction fs with
  | done => rfl
  | leaf key kind rest ih => simp [complete, full, need, ih, bind, Except.bind, pure, Except.pure]
  | record key name inner rest _ ih | recordOrNull key name inner rest _ ih
  | records key name inner rest _ ih =>
    simp [complete, full, need, ih, bind, Except.bind, pure, Except.pure]

theorem Parts.record_reads {fs : Fields} (parts : fs.Parts) (name : String) {keys : String → Prop}
    {ms : List Bytes} {values : fs.Values}
    (enters : Enters parts.member keys fs.nothing ms (fs.full values)) :
    Reads (parts.record name) (objectBytes ms) values :=
  RecordReader.read_reads _ enters (fs.complete_full values)

/-- The first member goes to the first field, and the others past it. -/
theorem enters_store {γ : Type} {key : String} {read : Reader γ} {bytes : Bytes} {v : γ}
    {rest : String → β → Except Cause (Option (Reader β))} {keys : List String} {nothing full : β}
    {ms : List Bytes} (fresh : key ∉ keys) (reads : Reads read bytes v)
    (enters : Enters rest (· ∈ keys) nothing ms full) :
    Enters (fun k (v, r) => store key read rest k v r) (· ∈ key :: keys) (none, nothing)
      (memberBytes key bytes :: ms) (some v, full) := by
  have later : Enters (fun k (v, r) => store key read rest k v r) (· ∈ key :: keys) (some v, nothing) ms
      (some v, full) := by
    refine enters.within (fun r => (some v, r)) (fun _ => List.mem_cons_of_mem key) fun k _ other => ?_
    have apart : k ≠ key := fun same => fresh (same ▸ other)
    exact if_neg apart
  refine .next List.mem_cons_self (if_pos rfl) (fun tail => ?_) later
  rw [bind_ok (reads.reads tail)]
  rfl

/-- The members of a record find all its fields. -/
theorem enters (fs : Fields) (well : fs.wellFormed = true) (values : fs.Values) :
    Enters fs.parts.member (· ∈ fs.keys) fs.nothing (fs.memberList values) (fs.full values) := by
  induction fs with
  | done => exact .done ()
  | leaf key kind rest ih =>
    obtain ⟨v, r⟩ := values
    simp only [wellFormed, Bool.and_eq_true, decide_eq_true_eq] at well
    exact enters_store well.1 (kind.read_reads v) (ih well.2 r)
  | record key name inner rest ihInner ih =>
    obtain ⟨v, r⟩ := values
    simp only [wellFormed, Bool.and_eq_true, decide_eq_true_eq] at well
    obtain ⟨⟨fresh, wellInner⟩, well⟩ := well
    have inside := inner.parts.record_reads name (ihInner wellInner v)
    exact enters_store fresh inside (ih well r)
  | recordOrNull key name inner rest ihInner ih =>
    obtain ⟨v, r⟩ := values
    simp only [wellFormed, Bool.and_eq_true, decide_eq_true_eq] at well
    obtain ⟨⟨fresh, wellInner⟩, well⟩ := well
    have inside := orNull_reads v
      (fun v _ => inner.parts.record_reads name (ihInner wellInner v))
      (fun v _ b first => by cases first; decide)
    cases v <;> exact enters_store fresh inside (ih well r)
  | records key name inner rest ihInner ih =>
    obtain ⟨vs, r⟩ := values
    simp only [wellFormed, Bool.and_eq_true, decide_eq_true_eq] at well
    obtain ⟨⟨fresh, wellInner⟩, well⟩ := well
    have inside : Reads (readList (inner.parts.record name))
        (listBytes (vs.map fun v => objectBytes (inner.memberList v))) vs :=
      readList_reads fun v _ => inner.parts.record_reads name (ihInner wellInner v)
    exact enters_store fresh inside (ih well r)

/-- A record is read back from what is written of it. -/
theorem read_write (fs : Fields) (name : String) (well : fs.wellFormed = true) (values : fs.Values) :
    fs.read name (fs.write values) = .ok values := by
  have reads : Reads (fs.parts.record name) (fs.write values) values :=
    fs.parts.record_reads name (fs.enters well values)
  have whole := reads.reads []
  rw [List.append_nil] at whole
  rw [read, whole]
  rfl

end Fields

/-! ### Text -/

theorem intercalate_isText {items : List Bytes} (texts : ∀ bytes ∈ items, Utf8.IsText bytes) :
    Utf8.IsText (List.intercalate [comma] items) := by
  have separator : Utf8.IsText [comma] := .ascii (by decide)
  cases items with
  | nil => exact .nil
  | cons first rest =>
    obtain ⟨first, later⟩ := List.forall_mem_cons.mp texts
    rw [intercalate_cons]
    exact first.append (.flatMap fun bytes member => separator.append (later bytes member))

theorem listBytes_isText {items : List Bytes} (texts : ∀ bytes ∈ items, Utf8.IsText bytes) :
    Utf8.IsText (listBytes items) := by
  have opening : Utf8.IsText [openBracket] := .ascii (by decide)
  exact opening.append ((intercalate_isText texts).append (.ascii (by decide)))

theorem objectBytes_isText {ms : List Bytes} (texts : ∀ bytes ∈ ms, Utf8.IsText bytes) :
    Utf8.IsText (objectBytes ms) := by
  have opening : Utf8.IsText [openBrace] := .ascii (by decide)
  exact opening.append ((intercalate_isText texts).append (.ascii (by decide)))

theorem memberBytes_isText (key : String) {value : Bytes} (text : Utf8.IsText value) :
    Utf8.IsText (memberBytes key value) := by
  have separator : Utf8.IsText [colon] := .ascii (by decide)
  exact (textBytes_isText key).append (separator.append text)

theorem Leaf.write_isText (k : Leaf) (v : k.Value) : Utf8.IsText (Leaf.write k v) := by
  cases k with
  | text => exact textBytes_isText v
  | texts => exact listBytes_isText (List.forall_mem_map.mpr fun s _ => textBytes_isText s)

namespace Fields

theorem memberList_isText (fs : Fields) (values : fs.Values) :
    ∀ bytes ∈ fs.memberList values, Utf8.IsText bytes := by
  induction fs with
  | done => simp [memberList]
  | leaf key kind rest ih =>
    obtain ⟨v, r⟩ := values
    exact List.forall_mem_cons.mpr ⟨memberBytes_isText key (Leaf.write_isText kind v), ih r⟩
  | record key name inner rest ihInner ih =>
    obtain ⟨v, r⟩ := values
    refine List.forall_mem_cons.mpr ⟨memberBytes_isText key ?_, ih r⟩
    exact objectBytes_isText (ihInner v)
  | recordOrNull key name inner rest ihInner ih =>
    obtain ⟨v, r⟩ := values
    refine List.forall_mem_cons.mpr ⟨memberBytes_isText key ?_, ih r⟩
    cases v with
    | none =>
      have null : Utf8.IsText (110 :: nullRest) := .ascii (by decide)
      exact null
    | some v => exact objectBytes_isText (ihInner v)
  | records key name inner rest ihInner ih =>
    obtain ⟨vs, r⟩ := values
    refine List.forall_mem_cons.mpr ⟨memberBytes_isText key ?_, ih r⟩
    exact listBytes_isText (List.forall_mem_map.mpr fun v _ => objectBytes_isText (ihInner v))

/-- What is written of a record is text. -/
theorem write_isText (fs : Fields) (values : fs.Values) : Utf8.IsText (fs.write values) :=
  objectBytes_isText (fs.memberList_isText values)

end Fields
end IPsecControl.Json
