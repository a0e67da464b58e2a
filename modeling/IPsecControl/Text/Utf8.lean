/-! Bytes of UTF-8 text. `bytes` and `text?` are exact; `lossy` reads any byte
string and puts one replacement character for each longest run of bytes that
starts a character and does not finish it. -/
namespace IPsecControl.Text.Utf8

def bytes (text : String) : List UInt8 := text.toByteArray.data.toList

/-- The text of a byte string that is valid UTF-8. -/
def text? (bytes : List UInt8) : Option String := String.fromUTF8? ⟨bytes.toArray⟩

/-- What a first byte promises: the bits it brings, the range of the byte after
it, and how many bytes follow. -/
structure Lead where
  bits : Nat
  low : Nat := 0x80
  high : Nat := 0xBF
  tails : Nat
  deriving DecidableEq, Repr

def lead? (b : Nat) : Option Lead :=
  if b < 0x80 then some ⟨b, 0x80, 0xBF, 0⟩
  else if b < 0xC2 then none
  else if b < 0xE0 then some ⟨b - 0xC0, 0x80, 0xBF, 1⟩
  else if b < 0xF0 then
    some ⟨b - 0xE0, if b = 0xE0 then 0xA0 else 0x80, if b = 0xED then 0x9F else 0xBF, 2⟩
  else if b < 0xF5 then
    some ⟨b - 0xF0, if b = 0xF0 then 0x90 else 0x80, if b = 0xF4 then 0x8F else 0xBF, 3⟩
  else none

/-- Reads the bytes a lead promises; stops in front of the first that does not fit. -/
def finish (bits low high : Nat) : Nat → List UInt8 → Option Char × List UInt8
  | 0, rest => (some (Char.ofNat bits), rest)
  | _ + 1, [] => (none, [])
  | tails + 1, t :: rest =>
    if low ≤ t.toNat && t.toNat ≤ high then
      finish (bits * 64 + t.toNat % 64) 0x80 0xBF tails rest
    else (none, t :: rest)

theorem finish_length (bits low high tails : Nat) (rest : List UInt8) :
    (finish bits low high tails rest).2.length ≤ rest.length := by
  induction tails generalizing bits low high rest with
  | zero => simp [finish]
  | succ tails ih =>
    cases rest with
    | nil => simp [finish]
    | cons t rest =>
      simp only [finish]
      split
      · exact Nat.le_succ_of_le (ih ..)
      · exact Nat.le_refl _

/-- The character at the front of a byte string, or none where none is complete. -/
def next (b : UInt8) (rest : List UInt8) : Option Char × List UInt8 :=
  match lead? b.toNat with
  | none => (none, rest)
  | some l => finish l.bits l.low l.high l.tails rest

theorem next_length (b : UInt8) (rest : List UInt8) : (next b rest).2.length ≤ rest.length := by
  unfold next
  split
  · exact Nat.le_refl _
  · exact finish_length ..

/-- Every character of a byte string, with a replacement character for what is none. -/
def lossy : List UInt8 → List Char
  | [] => []
  | b :: rest => (next b rest).1.getD '\uFFFD' :: lossy (next b rest).2
termination_by bytes => bytes.length
decreasing_by exact Nat.lt_succ_of_le (next_length b rest)

theorem text?_bytes (text : String) : text? (bytes text) = some text := by
  simp [text?, bytes, String.fromUTF8?, text.isValidUTF8, String.fromUTF8]

end IPsecControl.Text.Utf8
