import IPsecControl.Number.Modular

/-! The digest SHA-512: a text is padded to blocks of 128 bytes, and every block is mixed into
eight words of 64 bits. -/
namespace IPsecControl.Number.Digest

def primesBelow (bound : Nat) : List Nat :=
  (List.range bound).filter fun n => 2 ≤ n && ((List.range n).drop 2).all fun d => n % d ≠ 0

/-- The first 64 bits behind the point of a root. -/
def rootBits (degree n : Nat) : UInt64 := UInt64.ofNat (root degree 72 (n <<< (64 * degree)))

/-- The constants of the eighty rounds, from the cube roots of the first primes. -/
def roundConstants : List UInt64 := ((primesBelow 410).take 80).map (rootBits 3)

structure State where
  a : UInt64
  b : UInt64
  c : UInt64
  d : UInt64
  e : UInt64
  f : UInt64
  g : UInt64
  h : UInt64
  deriving DecidableEq, Repr

/-- The state at first, from the square roots of the first primes. -/
def initial : State :=
  ⟨rootBits 2 2, rootBits 2 3, rootBits 2 5, rootBits 2 7, rootBits 2 11, rootBits 2 13,
    rootBits 2 17, rootBits 2 19⟩

def State.add (s t : State) : State :=
  ⟨s.a + t.a, s.b + t.b, s.c + t.c, s.d + t.d, s.e + t.e, s.f + t.f, s.g + t.g, s.h + t.h⟩

def State.bytes (s : State) : List UInt8 :=
  [s.a, s.b, s.c, s.d, s.e, s.f, s.g, s.h].flatMap fun w => bigEndian 8 w.toNat

def rotate (w : UInt64) (n : UInt64) : UInt64 := (w >>> n) ||| (w <<< (64 - n))

/-- The next word of a block, from the sixteen words before it. -/
def nextWord (window : List UInt64) : UInt64 :=
  let w (i : Nat) := window.getD i 0
  let early := rotate (w 1) 1 ^^^ rotate (w 1) 8 ^^^ (w 1 >>> 7)
  let late := rotate (w 14) 19 ^^^ rotate (w 14) 61 ^^^ (w 14 >>> 6)
  w 0 + early + w 9 + late

def State.round (s : State) (constant word : UInt64) : State :=
  let choice := (s.e &&& s.f) ^^^ (~~~s.e &&& s.g)
  let majority := (s.a &&& s.b) ^^^ (s.a &&& s.c) ^^^ (s.b &&& s.c)
  let upper := rotate s.e 14 ^^^ rotate s.e 18 ^^^ rotate s.e 41
  let lower := rotate s.a 28 ^^^ rotate s.a 34 ^^^ rotate s.a 39
  let mixed := s.h + upper + choice + constant + word
  ⟨mixed + lower + majority, s.a, s.b, s.c, s.d + mixed, s.e, s.f, s.g⟩

/-- Mixes the sixteen words of a block into a state. -/
def State.mix (s : State) (block : List UInt64) : State :=
  let (mixed, _) := roundConstants.foldl (fun (t, window) constant =>
    (t.round constant (window.headD 0), window.drop 1 ++ [nextWord window])) (s, block)
  s.add mixed

def words : List UInt8 → List UInt64
  | a :: b :: c :: d :: e :: f :: g :: h :: rest =>
    UInt64.ofNat (ofBigEndian [a, b, c, d, e, f, g, h]) :: words rest
  | _ => []

/-- A text with what fills its last block: a one, zeros, and its length in bits. -/
def padded (text : List UInt8) : List UInt8 :=
  let zeros := (239 - text.length % 128) % 128
  text ++ 0x80 :: List.replicate zeros 0 ++ bigEndian 16 (text.length * 8)

/-- Mixes blocks of sixteen words. -/
def mixAll : Nat → State → List UInt64 → State
  | 0, s, _ => s
  | blocks + 1, s, ws => mixAll blocks (s.mix (ws.take 16)) (ws.drop 16)

/-- The digest of a text, of 64 bytes. -/
def digest (text : List UInt8) : List UInt8 :=
  let ws := words (padded text)
  (mixAll (ws.length / 16) initial ws).bytes

end IPsecControl.Number.Digest
