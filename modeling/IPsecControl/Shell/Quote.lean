/-! Double quotes around words of a command line. -/
namespace IPsecControl.Shell

def backquote : Char := '\x60'

/-- Characters that keep a meaning inside double quotes. -/
def isSpecial (c : Char) : Bool :=
  c == '$' || c == backquote || c == '"' || c == '\\' || c == '\n'

def escaped (c : Char) : List Char := if isSpecial c then ['\\', c] else [c]

/-- A text in double quotes, with a backslash in front of each special character. -/
def quoteChars (cs : List Char) : List Char := '"' :: cs.flatMap escaped ++ ['"']

def quote (text : String) : String := String.ofList (quoteChars text.toList)

end IPsecControl.Shell
