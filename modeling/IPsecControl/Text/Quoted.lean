import IPsecControl.Text.Decimal
import IPsecControl.Text.Visible

/-! Text in double quotes, as diagnostics show it: control characters have short
escapes, and a character that is not visible is written as its code point in
braces. -/
namespace IPsecControl.Text

/-- `\u` followed by the code point in braces. -/
def codePointEscape (c : Char) : List Char :=
  ['\\', 'u', '\x7b'] ++ hexDigits c.toNat ++ ['\x7d']

def quotedChar (c : Char) : List Char :=
  if c.toNat = 0 then ['\\', '0']
  else if c = '\t' then ['\\', 't']
  else if c = '\r' then ['\\', 'r']
  else if c = '\n' then ['\\', 'n']
  else if c = '\\' then ['\\', '\\']
  else if c = '"' then ['\\', '"']
  else if isVisible c then [c]
  else codePointEscape c

def quoted (text : String) : String :=
  String.ofList ('"' :: text.toList.flatMap quotedChar ++ ['"'])

/-- A character in single quotes, in which only these need an escape. -/
def quotedSingle (c : Char) : String :=
  let inside := if c = '\'' then ['\\', '\''] else if c = '"' then [c] else quotedChar c
  String.ofList ('\'' :: inside ++ ['\''])

def quotedList (texts : List String) : String :=
  "[" ++ ", ".intercalate (texts.map quoted) ++ "]"

end IPsecControl.Text
