import IPsecControl.Text.Decimal

/-! What a terminal shows of a text. A sequence that begins with the escape character sets a
colour, a title or the like and leaves nothing to be seen; one that is not finished goes on
until something ends it. -/
namespace IPsecControl.Text.Terminal

/-- Where a terminal is in a text. -/
inductive State where
  | ground
  /-- Behind the escape character. -/
  | escape
  /-- In an escape sequence of several characters. -/
  | escapeLong
  /-- In a control sequence, whose numbers end with a letter. -/
  | control
  /-- In a string for some device, which the next escape character ends. -/
  | deviceString
  /-- In a command for the system, which a bell ends, too. -/
  | systemCommand
  deriving DecidableEq, Repr

/-- The state after a visible ASCII character of a sequence. -/
def State.next (s : State) (c : Char) : State :=
  match s with
  | .escape =>
    if c = '[' then .control
    else if c = ']' then .systemCommand
    else if c ∈ ['P', 'X', '^', '_'] then .deviceString
    else if c.toNat < 0x30 then .escapeLong
    else .ground
  | .escapeLong => if c.toNat < 0x30 then .escapeLong else .ground
  | .control => if c.toNat < 0x40 then .control else .ground
  | s => s

/-- White space that moves the cursor. -/
def movesCursor (c : Char) : Bool := c.toNat ∈ [9, 10, 12, 13]

/-- Reads a character, and tells whether it is shown. A character outside of ASCII ends every
sequence, and so does one that cancels. -/
def State.read (s : State) (c : Char) : State × Bool :=
  let n := c.toNat
  let isControl := n < 0x20 || n = 0x7F
  if 0x80 ≤ n then (.ground, true)
  else if n = 0x1B then (.escape, false)
  else if n = 0x18 ∨ n = 0x1A then (.ground, false)
  else
    match s with
    | .ground => (.ground, !isControl || movesCursor c)
    | .deviceString => (.deviceString, false)
    | .systemCommand => (if n = 7 then .ground else .systemCommand, false)
    | .escape | .escapeLong | .control =>
      if movesCursor c then (.ground, true)
      else if isControl then (s, false)
      else (s.next c, false)

def shownFrom : State → List Char → List Char
  | _, [] => []
  | s, c :: cs =>
    let (s, isShown) := s.read c
    if isShown then c :: shownFrom s cs else shownFrom s cs

def shown (text : String) : String := .ofList (shownFrom .ground text.toList)

/-- A text in a style, by the number of the style. -/
def styled (style : Nat) (text : String) : String :=
  "\x1b[" ++ decimal style ++ "m" ++ text ++ "\x1b[0m"

end IPsecControl.Text.Terminal
