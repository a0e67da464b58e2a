import IPsecControl.Proofs.Json.Presentation

/-! What is written shows what it was written of: strings in the shortest spelling, and records with one
member for every field, in order and without blanks. -/
namespace IPsecControl.Json
open Text Fields

/-! ### Strings -/

theorem control_of_not_shown {c : Char} (hidden : ¬ isShown c = true) :
    c.toNat < 32 ∨ c = '"' ∨ c = '\\' := by
  simp only [isShown, Bool.and_eq_true, decide_eq_true_eq, bne_iff_ne, not_and_or, not_not] at hidden
  obtain (low | rfl) | rfl := hidden
  · exact .inl (Nat.not_le.mp low)
  · exact .inr (.inl rfl)
  · exact .inr (.inr rfl)

theorem control_of_no_escape {c : Char} (hidden : ¬ isShown c = true)
    (long : shortEscape? (byte c) = none) : c.toNat < 32 := by
  obtain low | rfl | rfl := control_of_not_shown hidden
  · exact low
  · contradiction
  · contradiction

/-- The piece that is written of a character. -/
def Piece.of (c : Char) : Piece :=
  if shown : isShown c = true then .plain c shown
  else
    match short : shortEscape? (byte c) with
    | some letter => .short letter (byte c) (unescape?_letter short).2
    | none =>
      .unit 48 48 (hexDigitByte (c.toNat / 16)) (hexDigitByte (c.toNat % 16)) c.toNat
        (fourHex?_control c.toNat (control_of_no_escape shown short))

def piecesOf (s : String) : List Piece := s.toList.map Piece.of

theorem Piece.of_cases (c : Char) : (∃ shown, Piece.of c = .plain c shown) ∨
    (c.toNat < 0x80 ∧ ∃ letter known, shortEscape? (byte c) = some letter ∧
      Piece.of c = .short letter (byte c) known) ∨
    (c.toNat < 32 ∧ shortEscape? (byte c) = none ∧ ∃ known, Piece.of c =
      .unit 48 48 (hexDigitByte (c.toNat / 16)) (hexDigitByte (c.toNat % 16)) c.toNat known) := by
  unfold Piece.of
  split
  next shown => exact .inl ⟨shown, rfl⟩
  next hidden =>
    have small : c.toNat < 0x80 := by
      obtain low | rfl | rfl := control_of_not_shown hidden
      · omega
      · decide
      · decide
    split
    next letter short => exact .inr (.inl ⟨small, letter, (unescape?_letter short).2, short, rfl⟩)
    next long =>
      have control := control_of_no_escape hidden long
      exact .inr (.inr ⟨control, long, fourHex?_control c.toNat control, rfl⟩)

/-- An ASCII character is its byte. -/
theorem byte_char {c : Char} (small : c.toNat < 0x80) :
    (byte c).toNat = c.toNat ∧ String.utf8EncodeChar c = [byte c] := by
  have same : (byte c).toNat = c.toNat := Nat.mod_eq_of_lt (by omega)
  refine ⟨same, ?_⟩
  have encoded := Utf8.ascii_char (b := byte c) (same ▸ small)
  rwa [same, Char.ofNat_toNat] at encoded

theorem Piece.of_bytes (c : Char) : (Piece.of c).bytes = (String.utf8EncodeChar c).flatMap escapedByte := by
  obtain ⟨shown, piece⟩ | ⟨small, letter, known, short, piece⟩ | ⟨control, long, known, piece⟩ :=
    Piece.of_cases c
  · rw [piece, List.flatMap_congr (shown_escapedByte shown), List.flatMap_singleton']
    rfl
  · rw [piece, (byte_char small).2, List.flatMap_singleton, escapedByte, short]
    rfl
  · obtain ⟨same, encoded⟩ := byte_char (c := c) (by omega)
    have low : byte c < 32 := UInt8.lt_iff_toNat_lt.mpr (same.trans_lt control)
    rw [piece, encoded, List.flatMap_singleton, escapedByte, long]
    simp only [if_pos low, same]
    rfl

theorem chars?_of (c : Char) (ps : List Piece) : chars? (Piece.of c :: ps) = (chars? ps).map (c :: ·) := by
  obtain ⟨shown, piece⟩ | ⟨small, letter, known, short, piece⟩ | ⟨control, long, known, piece⟩ :=
    Piece.of_cases c
  · rw [piece]
    rfl
  · rw [piece, chars?, (byte_char small).1, Char.ofNat_toNat]
  · have alone : isTrailing c.toNat = false ∧ isLeading c.toNat = false := by
      simp only [isTrailing, isLeading, Bool.and_eq_false_iff, decide_eq_false_iff_not]
      omega
    rw [piece, chars?.eq_def]
    simp only [alone, Bool.false_eq_true, if_false, Char.ofNat_toNat]

theorem pieceText?_of (s : String) : pieceText? (piecesOf s) = some s := by
  have all : ∀ cs : List Char, chars? (cs.map Piece.of) = some cs := by
    intro cs
    induction cs with
    | nil => rfl
    | cons c cs ih => rw [List.map_cons, chars?_of, ih]; rfl
  rw [pieceText?, piecesOf, all, Option.map_some, String.ofList_toList]

theorem textBytes_eq (s : String) : textBytes s = quotedPieces (piecesOf s) := by
  rw [textBytes, Utf8.bytes_eq_flatMap, List.flatMap_assoc, quotedPieces, piecesOf, List.flatMap_map]
  simp only [Piece.of_bytes]
  rfl

theorem isValue_textBytes (s : String) : IsValue (textBytes s) := by
  rw [textBytes_eq]
  exact .text _

theorem textBytes_shows (s : String) : ShowsText s (textBytes s) :=
  ⟨piecesOf s, pieceText?_of s, textBytes_eq s⟩

/-! ### Lists and objects -/

theorem row_later (parts : List Bytes) : row false parts = parts.flatMap (comma :: ·) := by
  induction parts with
  | nil => rfl
  | cons part parts ih => rw [row, ih, List.flatMap_cons]; rfl

theorem intercalate_eq (parts : List Bytes) : List.intercalate [comma] parts = row true parts := by
  cases parts with
  | nil => rfl
  | cons part parts => rw [intercalate_cons, row, row_later]; rfl

/-- A value without blanks around it. -/
def Padded.bare (value : Bytes) : Padded := ⟨.none, value, .none⟩

theorem Padded.bare_bytes (value : Bytes) : (Padded.bare value).bytes = value := by
  simp [Padded.bytes, bare, Blanks.none]

theorem listBytes_eq (values : List Bytes) : listBytes values = listOf .none (values.map .bare) := by
  have same : (values.map Padded.bare).map Padded.bytes = values := by
    simp only [List.map_map, Function.comp_def, Padded.bare_bytes, List.map_id']
  rw [listBytes, listOf, same, intercalate_eq]
  rfl

theorem isValue_listBytes {values : List Bytes} (each : ∀ value ∈ values, IsValue value) :
    IsValue (listBytes values) := by
  rw [listBytes_eq]
  exact .list .none (List.forall_mem_map.mpr each)

theorem listBytes_shows {α : Type} {shown : α → Bytes → Prop} {write : α → Bytes} (as : List α)
    (each : ∀ a, shown a (write a)) : ShowsList shown as (listBytes (as.map write)) := by
  refine ⟨.none, (as.map write).map .bare, listBytes_eq _, ?_⟩
  induction as with
  | nil => exact .nil
  | cons a as ih => exact .cons (each a) ih

theorem Leaf.write_shows (k : Leaf) (v : k.Value) : k.Shows v (Leaf.write k v) := by
  cases k with
  | text => exact textBytes_shows v
  | texts => exact listBytes_shows v textBytes_shows

/-- A member without blanks. -/
def Member.bare (key : String) (value : Bytes) : Member := ⟨.none, piecesOf key, .none, .bare value⟩

theorem Member.bare_name? (key : String) (value : Bytes) : (Member.bare key value).name? = some key :=
  pieceText?_of key

theorem Member.bare_bytes (key : String) (value : Bytes) :
    (Member.bare key value).bytes = memberBytes key value := by
  rw [memberBytes, textBytes_eq, Member.bytes, bare, Padded.bare_bytes]
  simp [Blanks.none]

/-- Members without blanks. -/
def bareMembers (entries : List (String × Bytes)) : List Member :=
  entries.map fun entry => .bare entry.1 entry.2

theorem holding_bare (key : String) (entries : List (String × Bytes)) :
    holding key (bareMembers entries) = bareMembers (entries.filter (·.1 = key)) := by
  rw [holding, bareMembers, List.filter_map]
  refine congrArg _ (List.filter_congr fun entry _ => ?_)
  simp [Member.bare_name?]

section
variable {entries : List (String × Bytes)} {key : String} {value : Bytes}
variable {shown : Bytes → Prop} {omitted : Prop}

theorem holds_one (only : entries.filter (·.1 = key) = [(key, value)]) (isShown : shown value) :
    Holds key (bareMembers entries) shown omitted :=
  .inl ⟨.bare key value, (holding_bare key entries).trans (congrArg _ only), isShown⟩

theorem holds_none (none : entries.filter (·.1 = key) = []) (left : omitted) :
    Holds key (bareMembers entries) shown omitted :=
  .inr ⟨(holding_bare key entries).trans (congrArg _ none), left⟩

theorem flawedAt_one (only : entries.filter (·.1 = key) = [(key, value)]) (flawed : shown value) :
    FlawedAt key (bareMembers entries) shown := by
  rw [FlawedAt, holding_bare, only]
  exact ⟨.bare key value, List.mem_singleton_self _, flawed⟩

theorem missing_bare (none : entries.filter (·.1 = key) = []) : Missing key (bareMembers entries) :=
  (holding_bare key entries).trans (congrArg bareMembers none)

theorem bareMembers_admissible {keys : List String}
    (each : ∀ entry ∈ entries, entry.1 ∈ keys ∨ IsValue entry.2) : Admissible keys (bareMembers entries) :=
  List.forall_mem_map.mpr fun entry member =>
    ⟨entry.1, Member.bare_name? entry.1 entry.2, each entry member⟩

theorem bareMembers_values (each : ∀ entry ∈ entries, IsValue entry.2) :
    ∀ m ∈ bareMembers entries, IsValue m.value.value :=
  List.forall_mem_map.mpr each

end

namespace Fields

/-- The members that are written of a record. -/
structure Written (fs : Fields) (values : fs.Values) (ms : List Member) : Prop where
  bytes : ms.map Member.bytes = fs.memberList values
  shown : fs.Shows values ms
  names : ∀ m ∈ ms, ∃ name, m.name? = some name ∧ name ∈ fs.keys

theorem Written.object {fs : Fields} {values : fs.Values} {ms : List Member}
    (written : fs.Written values ms) :
    ShowsObject fs.keys (fs.Shows values) (objectBytes (fs.memberList values)) := by
  refine ⟨.none, ms, ?_, written.shown, fun m member => ?_⟩
  · rw [objectBytes, ← written.bytes, objectOf, intercalate_eq]
    rfl
  · obtain ⟨name, named, known⟩ := written.names m member
    exact ⟨name, named, .inl known⟩

/-- A member of a new key in front of those that are written of the other fields. -/
theorem Written.cons {key : String} {rest : Fields} {r : rest.Values} {ms : List Member}
    (written : rest.Written r ms) (fresh : key ∉ rest.keys) (value : Bytes) :
    (Member.bare key value :: ms).map Member.bytes = memberBytes key value :: rest.memberList r ∧
      holding key (.bare key value :: ms) = [.bare key value] ∧ rest.Shows r (.bare key value :: ms) ∧
      ∀ m ∈ Member.bare key value :: ms, ∃ name, m.name? = some name ∧ name ∈ key :: rest.keys := by
  have named := Member.bare_name? key value
  have none : holding key ms = [] := List.filter_eq_nil_iff.mpr fun m member => by
    obtain ⟨name, same, known⟩ := written.names m member
    have apart : name ≠ key := fun equal => fresh (equal ▸ known)
    simp [same, apart]
  have others : ∀ other ∈ rest.keys, holding other (.bare key value :: ms) = holding other ms := by
    intro other known
    have apart : key ≠ other := fun equal => fresh (equal ▸ known)
    exact List.filter_cons_of_neg (by simp [named, apart])
  refine ⟨?_, ?_, (rest.shows_perm fun other known => .of_eq (others other known)).mpr written.shown, ?_⟩
  · rw [List.map_cons, Member.bare_bytes, written.bytes]
  · rw [holding, List.filter_cons_of_pos (by simp [named])]
    exact congrArg _ none
  · refine List.forall_mem_cons.mpr ⟨⟨key, named, List.mem_cons_self⟩, fun m member => ?_⟩
    obtain ⟨name, named, known⟩ := written.names m member
    exact ⟨name, named, List.mem_cons_of_mem key known⟩

theorem written (fs : Fields) (well : fs.wellFormed = true) (values : fs.Values) :
    ∃ ms, fs.Written values ms := by
  induction fs with
  | done => exact ⟨[], rfl, trivial, nofun⟩
  | leaf key kind rest ih =>
    obtain ⟨v, r⟩ := values
    simp only [wellFormed, Bool.and_eq_true, decide_eq_true_eq] at well
    obtain ⟨ms, later⟩ := ih well.2 r
    obtain ⟨bytes, one, shown, names⟩ := later.cons well.1 (Leaf.write kind v)
    exact ⟨_, bytes, ⟨.inl ⟨_, one, kind.write_shows v⟩, shown⟩, names⟩
  | record key name inner rest ihInner ih =>
    obtain ⟨v, r⟩ := values
    simp only [wellFormed, Bool.and_eq_true, decide_eq_true_eq] at well
    obtain ⟨⟨fresh, wellInner⟩, well⟩ := well
    obtain ⟨ms, later⟩ := ih well r
    obtain ⟨_, inside⟩ := ihInner wellInner v
    obtain ⟨bytes, one, shown, names⟩ := later.cons fresh (objectBytes (inner.memberList v))
    exact ⟨_, bytes, ⟨.inl ⟨_, one, inside.object⟩, shown⟩, names⟩
  | recordOrNull key name inner rest ihInner ih =>
    obtain ⟨v, r⟩ := values
    simp only [wellFormed, Bool.and_eq_true, decide_eq_true_eq] at well
    obtain ⟨⟨fresh, wellInner⟩, well⟩ := well
    obtain ⟨ms, later⟩ := ih well r
    cases v with
    | none =>
      obtain ⟨bytes, one, shown, names⟩ := later.cons fresh (110 :: nullRest)
      exact ⟨_, bytes, ⟨.inl ⟨_, one, rfl⟩, shown⟩, names⟩
    | some v =>
      obtain ⟨_, inside⟩ := ihInner wellInner v
      obtain ⟨bytes, one, shown, names⟩ := later.cons fresh (objectBytes (inner.memberList v))
      exact ⟨_, bytes, ⟨.inl ⟨_, one, inside.object⟩, shown⟩, names⟩
  | records key name inner rest ihInner ih =>
    obtain ⟨vs, r⟩ := values
    simp only [wellFormed, Bool.and_eq_true, decide_eq_true_eq] at well
    obtain ⟨⟨fresh, wellInner⟩, well⟩ := well
    obtain ⟨ms, later⟩ := ih well r
    have list := listBytes_shows vs fun v => (ihInner wellInner v).choose_spec.object
    obtain ⟨bytes, one, shown, names⟩ := later.cons fresh _
    exact ⟨_, bytes, ⟨.inl ⟨_, one, list⟩, shown⟩, names⟩

/-- What is written of a record shows it. -/
theorem write_shows (fs : Fields) (well : fs.wellFormed = true) (values : fs.Values) :
    ShowsObject fs.keys (fs.Shows values) (fs.write values) := by
  obtain ⟨ms, written⟩ := fs.written well values
  exact written.object

end Fields
end IPsecControl.Json
