import IPsecControl.Proofs.Json.Record

/-! The grammar of JSON texts, with blanks between any two tokens, every spelling of a character, and
numbers of any size. -/
namespace IPsecControl.Json
open Reader Text

structure Blanks where
  bytes : Bytes
  blank : bytes.all isBlankByte = true

namespace Blanks

def none : Blanks := ⟨[], rfl⟩

def append (blanks more : Blanks) : Blanks where
  bytes := blanks.bytes ++ more.bytes
  blank := by rw [List.all_append, blanks.blank, more.blank]; rfl

theorem peek_append (blanks : Blanks) {b : UInt8} (shown : isBlankByte b = false) (rest : Bytes) :
    peek (blanks.bytes ++ b :: rest) = .ok (some b, b :: rest) := by
  rw [peek, List.dropWhile_append_of_pos (List.all_eq_true.mp blanks.blank),
    List.dropWhile_cons_of_neg (by simp [shown])]
  rfl

end Blanks

/-! ### Strings -/

/-- A character that stands for itself in a string. -/
def isShown (c : Char) : Bool := 32 ≤ c.toNat && c != '"' && c != '\\'

/-- A piece of a string: a character as it is, a short escape, or an escaped code unit. -/
inductive Piece where
  | plain (c : Char) (shown : isShown c = true)
  | short (letter b : UInt8) (known : unescape? letter = some b)
  | unit (a b c d : UInt8) (n : Nat) (known : fourHex? a b c d = some n)

def Piece.bytes : Piece → Bytes
  | .plain c _ => String.utf8EncodeChar c
  | .short letter _ _ => [92, letter]
  | .unit a b c d _ _ => [92, 117, a, b, c, d]

/-- The pieces between quotes. -/
def quotedPieces (ps : List Piece) : Bytes := quote :: (ps.flatMap Piece.bytes ++ [quote])

theorem quotedPieces_append (ps : List Piece) (tail : Bytes) : quotedPieces ps ++ tail =
    quote :: (ps.flatMap Piece.bytes ++ 34 :: tail) := by
  simp [quotedPieces, quote]

/-- The character of a pair of surrogates. -/
def pairChar (n m : Nat) : Char := Char.ofNat ((n - 0xD800) * 1024 + (m - 0xDC00) + 0x10000)

/-- The characters of a string, unless a surrogate is without its other half. -/
def chars? : List Piece → Option (List Char)
  | [] => some []
  | .plain c _ :: ps => (chars? ps).map (c :: ·)
  | .short _ b _ :: ps => (chars? ps).map (Char.ofNat b.toNat :: ·)
  | .unit _ _ _ _ n _ :: ps =>
    if isTrailing n then none
    else if isLeading n then
      match ps with
      | .unit _ _ _ _ m _ :: ps => if isTrailing m then (chars? ps).map (pairChar n m :: ·) else none
      | _ => none
    else (chars? ps).map (Char.ofNat n :: ·)

def pieceText? (ps : List Piece) : Option String := (chars? ps).map String.ofList

/-! ### Numbers -/

structure Digits where
  bytes : Bytes
  nonempty : bytes ≠ []
  digits : bytes.all isDigitByte = true

structure Exponent where
  upper : Bool
  /-- Whether the sign, if there is one, is a minus. -/
  sign : Option Bool
  digits : Digits

def Exponent.bytes (e : Exponent) : Bytes :=
  (if e.upper then 69 else 101) ::
    ((e.sign.map fun minus => [if minus then 45 else 43]).getD [] ++ e.digits.bytes)

/-- A number. No zero stands in front of other digits. -/
structure Decimal where
  negative : Bool
  whole : Digits
  canonical : whole.bytes.head? = some 48 → whole.bytes = [48]
  places : Option Digits
  exponent : Option Exponent

def scaleBytes (e : Option Exponent) : Bytes := (e.map Exponent.bytes).getD []

def fractionBytes (places : Option Digits) (e : Option Exponent) : Bytes :=
  (places.map fun ds => 46 :: ds.bytes).getD [] ++ scaleBytes e

/-- A number behind its sign. -/
def Decimal.magnitude (d : Decimal) : Bytes := d.whole.bytes ++ fractionBytes d.places d.exponent

def Decimal.bytes (d : Decimal) : Bytes := (if d.negative then [45] else []) ++ d.magnitude

/-! ### Values -/

/-- A value between blanks. -/
structure Padded where
  before : Blanks
  value : Bytes
  after : Blanks

namespace Padded
variable (x : Padded) (rest : Bytes)

def bytes : Bytes := x.before.bytes ++ (x.value ++ x.after.bytes)

theorem bytes_append : x.bytes ++ rest = x.before.bytes ++ (x.value ++ (x.after.bytes ++ rest)) := by
  simp only [bytes, List.append_assoc]

theorem blanks_append (blanks : Blanks) : blanks.bytes ++ (x.bytes ++ rest) =
    (blanks.append x.before).bytes ++ (x.value ++ (x.after.bytes ++ rest)) := by
  rw [bytes_append, Blanks.append, List.append_assoc]

end Padded

/-- A member of an object. -/
structure Member where
  before : Blanks
  key : List Piece
  behind : Blanks
  value : Padded

namespace Member
variable (m : Member) (rest : Bytes)

def bytes : Bytes := m.before.bytes ++ (quotedPieces m.key ++ (m.behind.bytes ++ colon :: m.value.bytes))

theorem bytes_append : m.bytes ++ rest = m.before.bytes ++ (quotedPieces m.key ++
    (m.behind.bytes ++ colon :: (m.value.bytes ++ rest))) := by
  simp only [bytes, List.append_assoc, List.cons_append]

theorem blanks_append (blanks : Blanks) : blanks.bytes ++ (m.bytes ++ rest) =
    (blanks.append m.before).bytes ++ (quotedPieces m.key ++
      (m.behind.bytes ++ colon :: (m.value.bytes ++ rest))) := by
  rw [bytes_append, Blanks.append, List.append_assoc]

end Member

/-- A part behind its comma, which the first of all has not. -/
def lead (first : Bool) (part : Bytes) : Bytes := if first then part else comma :: part

theorem lead_true (part : Bytes) : lead true part = part := rfl

theorem lead_false (part : Bytes) : lead false part = comma :: part := rfl

def row : Bool → List Bytes → Bytes
  | _, [] => []
  | first, part :: parts => lead first part ++ row false parts

theorem row_cons (first : Bool) (part : Bytes) (parts : List Bytes) (tail : Bytes) :
    row first (part :: parts) ++ tail = lead first part ++ (row false parts ++ tail) := by
  rw [row, List.append_assoc]

def listOf (inside : Blanks) (items : List Padded) : Bytes :=
  openBracket :: (inside.bytes ++ (row true (items.map Padded.bytes) ++ [closeBracket]))

def objectOf (inside : Blanks) (ms : List Member) : Bytes :=
  openBrace :: (inside.bytes ++ (row true (ms.map Member.bytes) ++ [closeBrace]))

/-- The bytes are those of a value. -/
inductive IsValue : Bytes → Prop where
  | null : IsValue (110 :: nullRest)
  | yes : IsValue (116 :: trueRest)
  | no : IsValue (102 :: falseRest)
  | number (d : Decimal) : IsValue d.bytes
  | text (ps : List Piece) : IsValue (quotedPieces ps)
  | list (inside : Blanks) {items : List Padded} (values : ∀ x ∈ items, IsValue x.value) :
    IsValue (listOf inside items)
  | object (inside : Blanks) {ms : List Member} (values : ∀ m ∈ ms, IsValue m.value.value) :
    IsValue (objectOf inside ms)

/-- Nothing that could belong to a number in front of it. -/
def Ends (tail : Bytes) : Prop :=
  ∀ b ∈ tail.head?, (isDigitByte b || b == 46 || b == 101 || b == 69) = false

theorem ends_cons {b : UInt8} (stop : (isDigitByte b || b == 46 || b == 101 || b == 69) = false)
    (tail : Bytes) : Ends (b :: tail) :=
  fun _ same => Option.some.inj same ▸ stop

theorem Blanks.ends (blanks : Blanks) {tail : Bytes} (ends : Ends tail) : Ends (blanks.bytes ++ tail) := by
  obtain ⟨bytes, blank⟩ := blanks
  cases bytes with
  | nil => exact ends
  | cons b bytes =>
    rw [List.all_cons, Bool.and_eq_true] at blank
    refine ends_cons ?_ _
    have blank := blank.1
    simp only [isBlankByte, Bool.or_eq_true, beq_iff_eq] at blank
    obtain ((rfl | rfl) | rfl) | rfl := blank <;> decide

end IPsecControl.Json
