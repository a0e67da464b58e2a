/-! Texts between separators. -/
namespace IPsecControl.Text

/-- The parts of a text between separators; a text without one is its only part. -/
def split (separator : Char) : List Char → List (List Char)
  | [] => [[]]
  | c :: cs =>
    if c = separator then [] :: split separator cs
    else
      match split separator cs with
      | [] => [[c]]
      | part :: parts => (c :: part) :: parts

end IPsecControl.Text
