/-! Reading from the front of a text. -/
namespace IPsecControl.Text

/-- What follows a given text. -/
def literal? : List Char → List Char → Option (List Char)
  | [], cs => some cs
  | c :: expected, d :: cs => if c = d then literal? expected cs else none
  | _ :: _, [] => none

/-- What follows a given text, or the whole text if that is not in front. -/
def skipping (expected cs : List Char) : List Char := (literal? expected cs).getD cs

/-- The longest non-empty run of characters of a class, and what follows it. -/
def run? (p : Char → Bool) (cs : List Char) : Option (List Char × List Char) :=
  match cs.takeWhile p with
  | [] => none
  | front => some (front, cs.dropWhile p)

/-- The first result of reading at a place in the text, from the left. -/
def firstMatch? {α : Type} (read : List Char → Option α) : List Char → Option α
  | [] => read []
  | c :: cs => (read (c :: cs)).or (firstMatch? read cs)

end IPsecControl.Text
