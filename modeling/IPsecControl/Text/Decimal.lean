/-! Decimal and hexadecimal numerals. `digits` writes the canonical numeral of a
natural number; `readBounded` reads a numeral whose value has an upper bound and
names the first thing wrong with it, reading from the left. -/
namespace IPsecControl.Text

/-- The character of a digit below 36. -/
def digitChar (d : Nat) : Char :=
  if d < 10 then Char.ofNat (48 + d) else Char.ofNat (87 + d)

/-- The value of a digit in the given base, letters in either case. -/
def digitValue? (base : Nat) (c : Char) : Option Nat :=
  let n := c.toNat
  let value? :=
    if 48 ≤ n && n ≤ 57 then some (n - 48)
    else if 97 ≤ n && n ≤ 122 then some (n - 87)
    else if 65 ≤ n && n ≤ 90 then some (n - 55)
    else none
  value?.filter (· < base)

/-- Digits of `n` in base `b + 2`, most significant first, in front of `tail`. -/
def digitsOnto (b n : Nat) (tail : List Char) : List Char :=
  if h : n < b + 2 then digitChar n :: tail
  else digitsOnto b (n / (b + 2)) (digitChar (n % (b + 2)) :: tail)
termination_by n
decreasing_by exact Nat.div_lt_self (by omega) (by omega)

/-- The decimal numeral of `n`. -/
def digits (n : Nat) : List Char := digitsOnto 8 n []

/-- The lower-case hexadecimal numeral of `n`. -/
def hexDigits (n : Nat) : List Char := digitsOnto 14 n []

def decimal (n : Nat) : String := String.ofList (digits n)

def signedDecimal (n : Int) : String :=
  if n < 0 then "-" ++ decimal n.natAbs else decimal n.natAbs

/-- Fills a numeral with zeros on the left up to `width` digits. -/
def zeroFill (width : Nat) (ds : List Char) : List Char :=
  List.replicate (width - ds.length) '0' ++ ds

/-- Why a text is no numeral of the wanted range. -/
inductive NumeralError where
  | empty
  | invalidDigit
  | tooLarge
  | tooSmall
  deriving DecidableEq, Repr

def NumeralError.message : NumeralError → String
  | .empty => "cannot parse integer from empty string"
  | .invalidDigit => "invalid digit found in string"
  | .tooLarge => "number too large to fit in target type"
  | .tooSmall => "number too small to fit in target type"

/-- Reads digits onto `value`; a digit that takes the value above `limit` fails with `excess`. -/
def readDigits (base limit : Nat) (excess : NumeralError) :
    Nat → List Char → Except NumeralError Nat
  | value, [] => .ok value
  | value, c :: rest =>
    match digitValue? base c with
    | none => .error .invalidDigit
    | some d =>
      if limit < value * base + d then .error excess
      else readDigits base limit excess (value * base + d) rest

/-- A numeral of at most `limit`, with an optional plus sign. -/
def readBounded (base limit : Nat) : List Char → Except NumeralError Nat
  | [] => .error .empty
  | ['+'] => .error .invalidDigit
  | '+' :: rest => readDigits base limit .tooLarge 0 rest
  | cs => readDigits base limit .tooLarge 0 cs

/-- A signed decimal numeral between `-(limit + 1)` and `limit`. -/
def readSigned (limit : Nat) : List Char → Except NumeralError Int
  | [] => .error .empty
  | ['+'] | ['-'] => .error .invalidDigit
  | '-' :: rest => (readDigits 10 (limit + 1) .tooSmall 0 rest).map fun n => -(n : Int)
  | '+' :: rest => (readDigits 10 limit .tooLarge 0 rest).map fun n => (n : Int)
  | cs => (readDigits 10 limit .tooLarge 0 cs).map fun n => (n : Int)

end IPsecControl.Text
