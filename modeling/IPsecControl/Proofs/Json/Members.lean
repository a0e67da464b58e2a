import IPsecControl.Proofs.Json.Deciding

/-! Records read from any value. The members of an object are taken one after the other, each with what
was found before it; taking them ends behind the last one, or the whole record is not read. -/
namespace IPsecControl.Json
open Reader Text

def Member.name? (m : Member) : Option String := pieceText? m.key

variable {Found Values : Type} {member : String → Found → Except Cause (Option (Reader Found))}

theorem moreMembers_closing (first : Bool) (before : Blanks) (tail : Bytes) :
    moreMembers first (before.bytes ++ closeBrace :: tail) = .ok (false, closeBrace :: tail) := by
  rw [moreMembers, peek_bind before (by decide)]
  rfl

theorem moreMembers_key (first : Bool) (before : Blanks) (m : Member) (rest : Bytes) :
    moreMembers first (before.bytes ++ (lead first m.bytes ++ rest)) =
      .ok (true, quote :: (m.key.flatMap Piece.bytes ++ 34 ::
        (m.behind.bytes ++ colon :: (m.value.bytes ++ rest)))) := by
  cases first with
  | true =>
    rw [lead_true, m.blanks_append, quotedPieces_append, moreMembers, peek_bind _ (by decide)]
    rfl
  | false =>
    rw [lead_false, List.cons_append, moreMembers, peek_bind before (by decide)]
    simp only [if_neg (by decide : comma ≠ closeBrace), Bool.false_eq_true, if_false, if_true]
    rw [bind_ok (skip_cons _ _), m.bytes_append, quotedPieces_append, peek_bind _ (by decide)]
    rfl

/-- What was found becomes what is found with the member. -/
def Takes (member : String → Found → Except Cause (Option (Reader Found))) (before : Found) (m : Member)
    (after : Found) : Prop :=
  ∃ name, m.name? = some name ∧
    ((∃ enter, member name before = .ok (some enter) ∧ Gives enter m.value.value after) ∨
      (member name before = .ok none ∧ IsValue m.value.value ∧ after = before))

/-- The member has no name, or it may not be there, or its value is not read. -/
def Refuses (member : String → Found → Except Cause (Option (Reader Found))) (found : Found)
    (m : Member) : Prop :=
  ∀ name, m.name? = some name → (∃ cause, member name found = .error cause) ∨
    ∃ enter, member name found = .ok (some enter) ∧ Fails enter m.value.value

/-- Reading ends in a failure, or with a cause. -/
def Stops (result : Except Failure (Except Cause Found × Bytes)) : Prop :=
  (∃ e, result = .error e) ∨ ∃ cause rest, result = .ok (.error cause, rest)

section
variable (first : Bool) (before : Blanks) (rest : Bytes) {found after : Found} {m : Member}
variable {name : String} {fuel : Nat}

/-- The key of the next member decides how its value is read. -/
theorem members_next (named : m.name? = some name) :
    members member (fuel + 1) first found (before.bytes ++ (lead first m.bytes ++ rest)) =
      (match member name found with
        | .error cause => return Except.error cause
        | .ok known => do
          readColon
          match known with
          | some value => members member fuel false (← value)
          | none =>
            passValue
            members member fuel false found) (m.behind.bytes ++ colon :: (m.value.bytes ++ rest)) := by
  rw [members, bind_ok (moreMembers_key first before m rest)]
  simp only [if_true]
  exact (bind_ok (skip_cons _ _)).trans (bind_ok (readText_pieces named _))

theorem readColon_behind (blanks : Blanks) :
    readColon (blanks.bytes ++ colon :: rest) = .ok ((), rest) := by
  rw [readColon, peek_bind blanks (by decide)]
  rfl

theorem members_takes (takes : Takes member found m after) (ends : Ends rest) :
    members member (fuel + 1) first found (before.bytes ++ (lead first m.bytes ++ rest)) =
      members member fuel false after (m.value.after.bytes ++ rest) := by
  obtain ⟨name, named, ⟨enter, known, gives⟩ | ⟨unknown, shape, rfl⟩⟩ := takes
  · have read := gives m.value.before _ (m.value.after.ends ends)
    rw [members_next first before rest named, known]
    simp only
    rw [bind_ok (readColon_behind _ m.behind), Padded.bytes_append, bind_ok read]
  · have passed := passValue_value shape m.value.before (m.value.after.ends ends)
    rw [members_next first before rest named, unknown]
    simp only
    rw [bind_ok (readColon_behind _ m.behind), Padded.bytes_append, bind_ok passed]

theorem members_stops (refuses : Refuses member found m) (ends : Ends rest) :
    Stops (members member (fuel + 1) first found (before.bytes ++ (lead first m.bytes ++ rest))) := by
  cases named : m.name? with
  | none =>
    obtain ⟨e, failed⟩ := readText_error named (m.behind.bytes ++ colon :: (m.value.bytes ++ rest))
    rw [members, bind_ok (moreMembers_key first before m rest)]
    simp only [if_true]
    rw [bind_ok (skip_cons _ _), bind_error failed]
    exact .inl ⟨e, rfl⟩
  | some name =>
    rw [members_next first before rest named]
    obtain ⟨cause, failed⟩ | ⟨enter, known, fails⟩ := refuses name named
    · rw [failed]
      exact .inr ⟨cause, _, rfl⟩
    · obtain ⟨e, failed⟩ := fails m.value.before _ (m.value.after.ends ends)
      rw [known]
      simp only
      rw [bind_ok (readColon_behind _ m.behind), Padded.bytes_append, bind_error failed]
      exact .inl ⟨e, rfl⟩

end

/-- What is found with all members. -/
inductive Collects (member : String → Found → Except Cause (Option (Reader Found))) :
    Found → List Member → Found → Prop where
  | done (found : Found) : Collects member found [] found
  | next {before found after : Found} {m : Member} {ms : List Member} (takes : Takes member before m found)
      (collects : Collects member found ms after) : Collects member before (m :: ms) after

theorem members_ends (ms : List Member) (tail : Bytes) :
    Ends (row false (ms.map Member.bytes) ++ closeBrace :: tail) :=
  row_ends _ (.inr rfl) tail

section
theorem members_collects (first : Bool) (before : Blanks) (tail : Bytes) {found after : Found}
    {ms : List Member} {fuel : Nat} (collects : Collects member found ms after)
    (enough : ms.length < fuel) :
    members member fuel first found
      (before.bytes ++ (row first (ms.map Member.bytes) ++ closeBrace :: tail)) =
      .ok (.ok after, closeBrace :: tail) := by
  induction collects generalizing fuel first before with
  | done =>
    obtain ⟨fuel, rfl⟩ := Nat.exists_eq_succ_of_ne_zero (Nat.ne_of_gt enough)
    rw [members, List.map_nil, row, List.nil_append, bind_ok (moreMembers_closing first before tail)]
    rfl
  | @next _ _ _ m ms takes _ ih =>
    obtain ⟨fuel, rfl⟩ := Nat.exists_eq_succ_of_ne_zero (Nat.ne_of_gt (Nat.zero_lt_of_lt enough))
    rw [List.map_cons, row_cons, members_takes first before _ takes (members_ends ms tail)]
    exact ih false m.value.after (Nat.lt_of_succ_lt_succ enough)

end

/-- Whatever is read behind a key is read to its end, or not at all. -/
def MembersDecisive (member : String → Found → Except Cause (Option (Reader Found))) : Prop :=
  ∀ key found enter, member key found = .ok (some enter) → Decisive enter

theorem takes_or_refuses (decisive : MembersDecisive member) {m : Member} (shape : IsValue m.value.value)
    (found : Found) : (∃ after, Takes member found m after) ∨ Refuses member found m := by
  cases named : m.name? with
  | none => exact .inr fun name same => absurd (named.symm.trans same) nofun
  | some name =>
    have only : ∀ {other}, m.name? = some other → other = name := fun same =>
      Option.some.inj (same.symm.trans named)
    cases known : member name found with
    | error cause => exact .inr fun _ same => only same ▸ .inl ⟨cause, known⟩
    | ok enter? =>
      cases enter? with
      | none => exact .inl ⟨found, name, named, .inr ⟨known, shape, rfl⟩⟩
      | some enter =>
        obtain ⟨after, gives⟩ | fails := decisive name found enter known _ shape
        · exact .inl ⟨after, name, named, .inl ⟨enter, known, gives⟩⟩
        · exact .inr fun _ same => only same ▸ .inr ⟨enter, known, fails⟩

/-- All members are found, or reading them stops. -/
theorem members_decides (decisive : MembersDecisive member) {ms : List Member}
    (shapes : ∀ m ∈ ms, IsValue m.value.value) (found : Found) : (∃ after, Collects member found ms after) ∨
    ∀ (first : Bool) (before : Blanks) (tail : Bytes) (fuel : Nat), ms.length < fuel →
      Stops (members member fuel first found
        (before.bytes ++ (row first (ms.map Member.bytes) ++ closeBrace :: tail))) := by
  -- Whether a member is taken depends on what was found before it, and on nothing around it.
  induction ms generalizing found with
  | nil => exact .inl ⟨found, .done found⟩
  | cons m ms ih =>
    obtain ⟨shape, shapes⟩ := List.forall_mem_cons.mp shapes
    obtain ⟨mid, takes⟩ | refuses := takes_or_refuses decisive shape found
    · obtain ⟨after, collects⟩ | stops := ih shapes mid
      · exact .inl ⟨after, .next takes collects⟩
      · refine .inr fun first before tail fuel enough => ?_
        obtain ⟨fuel, rfl⟩ := Nat.exists_eq_succ_of_ne_zero (Nat.ne_of_gt (Nat.zero_lt_of_lt enough))
        rw [List.map_cons, row_cons, members_takes first before _ takes (members_ends ms tail)]
        exact stops false m.value.after tail fuel (Nat.lt_of_succ_lt_succ enough)
    · refine .inr fun first before tail fuel enough => ?_
      obtain ⟨fuel, rfl⟩ := Nat.exists_eq_succ_of_ne_zero (Nat.ne_of_gt (Nat.zero_lt_of_lt enough))
      rw [List.map_cons, row_cons]
      exact members_stops first before _ refuses (members_ends ms tail)

/-! ### Objects -/

theorem settle_never (closing : UInt8) (ending : Reader Unit) (cause : Cause) :
    Never (settle closing ending (.error cause) : Reader Values) := by
  have fails : Never (fail cause : Reader Values) := fun _ => ⟨_, rfl⟩
  refine Never.bind fun next => ?_
  split
  · split
    · exact .bind fun _ => fails
    · split
      · exact .bind fun _ => .bind fun _ => fails
      · exact fails
  · exact fails

theorem objectOf_append (inside : Blanks) (ms : List Member) (tail : Bytes) : objectOf inside ms ++ tail =
    openBrace :: (inside.bytes ++ (row true (ms.map Member.bytes) ++ closeBrace :: tail)) := by
  simp [objectOf]

theorem members_length (ms : List Member) (inside : Blanks) (tail : Bytes) : ms.length <
    (inside.bytes ++ (row true (ms.map Member.bytes) ++ closeBrace :: tail)).length + 1 := by
  have nonempty : ∀ part ∈ ms.map Member.bytes, part ≠ [] := List.forall_mem_map.mpr fun m _ => by
    simp [Member.bytes, quotedPieces]
  have within := length_le_row nonempty true
  rw [List.length_map] at within
  simp only [List.length_append]
  omega

namespace RecordReader
variable {r : RecordReader Found Values} {inside : Blanks} {ms : List Member}

theorem read_object (tail : Bytes) (before : Blanks) :
    r.read (before.bytes ++ (objectOf inside ms ++ tail)) =
    (do
      let found ← members r.member
        ((inside.bytes ++ (row true (ms.map Member.bytes) ++ closeBrace :: tail)).length + 1) true r.nothing
      settle closeBrace endObject (found.bind r.complete))
      (inside.bytes ++ (row true (ms.map Member.bytes) ++ closeBrace :: tail)) := by
  rw [objectOf_append, read, peek_bind before (by decide)]
  simp only [if_neg (by decide : openBrace ≠ openBracket), if_true]
  rw [bind_ok (skip_cons _ _), bind_ok (get_apply _)]

variable {found : Found} (collects : Collects r.member r.nothing ms found)
include collects

theorem read_gives {values : Values} (complete : r.complete found = .ok values) :
    Gives r.read (objectOf inside ms) values := by
  intro before tail _
  rw [read_object, bind_ok (members_collects true inside tail collects (members_length ms inside tail))]
  simp only [Except.bind, complete, settle]
  rw [bind_ok (endObject_end tail)]
  rfl

theorem read_incomplete {cause : Cause} (incomplete : r.complete found = .error cause) :
    Fails r.read (objectOf inside ms) := by
  intro before tail _
  rw [read_object, bind_ok (members_collects true inside tail collects (members_length ms inside tail))]
  simp only [Except.bind, incomplete]
  exact settle_never _ _ cause _

omit collects in
theorem read_stops (stops : ∀ (first : Bool) (before : Blanks) (tail : Bytes) (fuel : Nat),
    ms.length < fuel → Stops (members r.member fuel first r.nothing
        (before.bytes ++ (row first (ms.map Member.bytes) ++ closeBrace :: tail)))) :
    Fails r.read (objectOf inside ms) := by
  intro before tail _
  rw [read_object]
  obtain ⟨e, failed⟩ | ⟨cause, rest, stopped⟩ := stops true inside tail _ (members_length ms inside tail)
  · exact ⟨e, bind_error failed⟩
  · rw [bind_ok stopped]
    exact settle_never _ _ cause _

end RecordReader

/-! ### Records in lists -/

/-- What is left of a list in front of some of its items. -/
def itemsAt (first : Bool) (items : List Padded) (before : Blanks) (tail : Bytes) : Bytes :=
  before.bytes ++ (row first (items.map Padded.bytes) ++ closeBracket :: tail)

/-- The items of a record are read, and whatever is left of the list are values; or reading them stops. -/
def Settles (first : Bool) (items : List Padded) (read : Reader (Except Cause Values)) : Prop :=
  (∃ values, ∃ first' : Bool, ∃ left : List Padded, (∀ x ∈ left, IsValue x.value) ∧
    ∀ (before : Blanks) (tail : Bytes), ∃ after : Blanks,
      read (itemsAt first items before tail) = .ok (.ok values, itemsAt first' left after tail)) ∨
  ∀ (before : Blanks) (tail : Bytes), Stops (read (itemsAt first items before tail))

section
variable {first : Bool} {items : List Padded} {A : Type}

theorem Stops.map {read : Reader (Except Cause Values)} {f : Values → A} {bytes : Bytes}
    (stops : Stops (read bytes)) : Stops ((do return (← read).map f) bytes) := by
  obtain ⟨e, failed⟩ | ⟨cause, rest, stopped⟩ := stops
  · exact .inl ⟨e, bind_error failed⟩
  · exact .inr ⟨cause, rest, bind_ok stopped⟩

/-- A reader that takes the first items and leaves the others to a second one. -/
theorem Settles.of_step {read : Reader (Except Cause Values)} {whole : Reader (Except Cause A)}
    {first' : Bool} {items' : List Padded} {f : Values → A} (settles : Settles first' items' read)
    (step : ∀ (before : Blanks) tail, ∃ after : Blanks, whole (itemsAt first items before tail) =
      (do return (← read).map f) (itemsAt first' items' after tail)) : Settles first items whole := by
  obtain ⟨values, next, left, shapes, goes⟩ | stops := settles
  · refine .inl ⟨f values, next, left, shapes, fun before tail => ?_⟩
    obtain ⟨mid, same⟩ := step before tail
    obtain ⟨after, found⟩ := goes mid tail
    exact ⟨after, same.trans (bind_ok found)⟩
  · refine .inr fun before tail => ?_
    obtain ⟨mid, same⟩ := step before tail
    rw [same]
    exact (stops mid tail).map

theorem moreItems_none (before : Blanks) (tail : Bytes) : moreItems first (itemsAt first [] before tail) =
    .ok (false, itemsAt false [] .none tail) :=
  moreItems_closing first before tail

theorem moreItems_some (before : Blanks) (tail : Bytes) {x : Padded} (begins : Begins x.value) :
    moreItems first (itemsAt first (x :: items) before tail) =
      .ok (true, x.value ++ itemsAt false items x.after tail) := by
  rw [itemsAt, List.map_cons, row_cons]
  exact moreItems_item first before begins _

theorem itemsAt_ends (items : List Padded) (after : Blanks) (tail : Bytes) :
    Ends (itemsAt false items after tail) :=
  after.ends (items_ends tail items)

theorem itemInOrder_settles (short : Cause) (fallback : Option A) {read : Reader A} {index : Nat}
    {rest : Reader (Except Cause Values)} (decisive : Decisive read)
    (later : ∀ items : List Padded, (∀ x ∈ items, IsValue x.value) → Settles false items rest)
    (shapes : ∀ x ∈ items, IsValue x.value) :
    Settles (index == 0) items (Fields.itemInOrder short read fallback index rest) := by
  cases items with
  | nil =>
    cases fallback with
    | some a =>
      refine (later [] nofun).of_step (f := (a, ·)) fun before tail => ⟨.none, ?_⟩
      rw [Fields.itemInOrder, bind_ok (moreItems_none before tail)]
      rfl
    | none =>
      refine .inr fun before tail => .inr ⟨short, itemsAt false [] .none tail, ?_⟩
      rw [Fields.itemInOrder, bind_ok (moreItems_none before tail)]
      rfl
  | cons x items =>
    obtain ⟨shape, shapes⟩ := List.forall_mem_cons.mp shapes
    obtain ⟨a, gives⟩ | fails := decisive x.value shape
    · refine (later items shapes).of_step (f := (a, ·)) fun before tail => ⟨x.after, ?_⟩
      have taken := gives.here (itemsAt_ends items x.after tail)
      unfold Fields.itemInOrder
      rw [bind_ok (moreItems_some before tail shape.begins)]
      simp only [if_true]
      rw [bind_ok taken]
    · refine .inr fun before tail => .inl ?_
      obtain ⟨e, failed⟩ := fails.here (itemsAt_ends items x.after tail)
      unfold Fields.itemInOrder
      rw [bind_ok (moreItems_some before tail shape.begins)]
      simp only [if_true]
      exact ⟨e, bind_error failed⟩

theorem endList_other {b : UInt8} (shown : isBlankByte b = false) (other : b ≠ closeBracket)
    (before : Blanks) (rest : Bytes) : ∃ e, endList (before.bytes ++ b :: rest) = .error e := by
  rw [endList, peek_bind before shown]
  simp only [if_neg other]
  split
  · refine Never.bind (fun _ => Never.bind fun next => ?_) _
    split <;> exact fun _ => ⟨_, rfl⟩
  · exact ⟨_, rfl⟩

theorem endList_leftover {x : Padded} (begins : Begins x.value) (before : Blanks) (tail : Bytes) :
    ∃ e, endList (itemsAt first (x :: items) before tail) = .error e := by
  obtain ⟨b, rest, shape, shown, other⟩ := begins
  rw [itemsAt, List.map_cons, row_cons]
  cases first with
  | true =>
    rw [lead_true, x.blanks_append, shape]
    exact endList_other shown other _ _
  | false => exact endList_other (by decide) (by decide) before _

theorem endList_none (before : Blanks) (tail : Bytes) :
    endList (itemsAt first [] before tail) = .ok ((), tail) := by
  rw [itemsAt, List.map_nil, row, List.nil_append, endList, peek_bind before (by decide)]
  rfl

end

namespace RecordReader
variable {r : RecordReader Found Values} {inside : Blanks}

theorem read_list_decides {items : List Padded} (settles : Settles true items r.inOrder) :
    Decides r.read (listOf inside items) := by
  have shape : ∀ (before : Blanks) tail, r.read (before.bytes ++ (listOf inside items ++ tail)) =
      (r.inOrder >>= settle closeBracket endList)
        (itemsAt true items inside tail) := by
    intro before tail
    rw [listOf_append, read, peek_bind before (by decide)]
    simp only [if_true]
    rw [bind_ok (skip_cons _ _)]
    rfl
  obtain ⟨values, first, left, shapes, goes⟩ | stops := settles
  · cases left with
    | nil =>
      refine .inl ⟨values, fun before tail _ => ?_⟩
      obtain ⟨after, found⟩ := goes inside tail
      rw [shape, bind_ok found, settle, bind_ok (endList_none after tail)]
      rfl
    | cons x left =>
      refine .inr fun before tail _ => ?_
      obtain ⟨after, found⟩ := goes inside tail
      obtain ⟨e, failed⟩ := endList_leftover (shapes x List.mem_cons_self).begins after tail
      rw [shape, bind_ok found, settle, bind_error failed]
      exact ⟨e, rfl⟩
  · refine .inr fun before tail _ => ?_
    rw [shape]
    obtain ⟨e, failed⟩ | ⟨cause, rest, stopped⟩ := stops inside tail
    · exact ⟨e, bind_error failed⟩
    · rw [bind_ok stopped]
      exact settle_never _ _ cause _

theorem read_decisive (decisive : MembersDecisive r.member)
    (settles : ∀ items : List Padded, (∀ x ∈ items, IsValue x.value) → Settles true items r.inOrder) :
    Decisive r.read := by
  intro value shape
  obtain ⟨b, rest, first, shown, -, list, object, -⟩ := shape.first
  by_cases bracket : b = openBracket
  · obtain ⟨inside, items, rfl, shapes⟩ := list bracket
    exact read_list_decides (settles items shapes)
  by_cases brace : b = openBrace
  · obtain ⟨inside, ms, rfl, shapes⟩ := object brace
    obtain ⟨found, collects⟩ | stops := members_decides decisive shapes r.nothing
    · cases complete : r.complete found with
      | ok values => exact .inl ⟨values, read_gives collects complete⟩
      | error cause => exact .inr (read_incomplete collects complete)
    · exact .inr (read_stops stops)
  · refine .inr fun before tail _ => ?_
    rw [first, List.cons_append, read, peek_bind before shown]
    simp only [if_neg bracket, if_neg brace]
    exact invalidType_never _ _

end RecordReader

theorem Leaf.read_decisive (k : Leaf) : Decisive k.read := by
  cases k with
  | text => exact readString_decisive
  | texts => exact readList_decisive readString_decisive

namespace Fields

theorem store_decisive {A B : Type} {key : String} {read : Reader A}
    {rest : String → B → Except Cause (Option (Reader B))} (decisive : Decisive read)
    (later : MembersDecisive rest) : MembersDecisive fun k (v, r) => store key read rest k v r := by
  intro k (v, r) enter known value shape
  simp only [store] at known
  split at known
  · cases v with
    | some _ => contradiction
    | none =>
      cases known
      exact (decisive value shape).map fun a => (some a, r)
  · cases inner : rest k r with
    | error cause =>
      rw [inner] at known
      contradiction
    | ok enter? =>
      rw [inner] at known
      obtain ⟨enter', rfl, rfl⟩ := Option.map_eq_some_iff.mp (Except.ok.inj known)
      exact (later k r enter' inner value shape).map fun r => (v, r)

/-- The members and the items of a record are read to their ends, or not at all. -/
structure Parts.Decisive {fs : Fields} (parts : fs.Parts) : Prop where
  member : MembersDecisive parts.member
  inOrder : ∀ (name : String) (total index : Nat) (items : List Padded), (∀ x ∈ items, IsValue x.value) →
    Settles (index == 0) items (parts.inOrder name total index)

theorem Parts.Decisive.record {fs : Fields} {parts : fs.Parts} (decisive : parts.Decisive) (name : String) :
    Json.Decisive (parts.record name) :=
  RecordReader.read_decisive decisive.member (decisive.inOrder name fs.arity 0)

theorem parts_decisive (fs : Fields) : fs.parts.Decisive := by
  induction fs with
  | done =>
    refine ⟨nofun, fun name total index items shapes => .inl ⟨(), index == 0, items, shapes, ?_⟩⟩
    exact fun before tail => ⟨before, rfl⟩
  | leaf key kind rest ih =>
    refine ⟨store_decisive kind.read_decisive ih.member, fun name total index _ => ?_⟩
    have later := ih.inOrder name total (index + 1)
    exact itemInOrder_settles (tooShort name total index) kind.fallback? kind.read_decisive later
  | record key inside inner rest ihInner ih =>
    have read := ihInner.record inside
    refine ⟨store_decisive read ih.member, fun name total index _ => ?_⟩
    exact itemInOrder_settles (tooShort name total index) none read (ih.inOrder name total (index + 1))
  | recordOrNull key inside inner rest ihInner ih =>
    have read := orNull_decisive (ihInner.record inside)
    refine ⟨store_decisive read ih.member, fun name total index _ => ?_⟩
    have later := ih.inOrder name total (index + 1)
    exact itemInOrder_settles (tooShort name total index) (some none) read later
  | records key inside inner rest ihInner ih =>
    have read := readList_decisive (ihInner.record inside)
    refine ⟨store_decisive read ih.member, fun name total index _ => ?_⟩
    exact itemInOrder_settles (tooShort name total index) none read (ih.inOrder name total (index + 1))

end Fields
end IPsecControl.Json
