import IPsecControl.Shell.Pattern
import IPsecControl.Shell.State

/-! Fields. An expanded word is a row of marks, which the gaps between them cut into fields;
a field that is a pattern stands for the files whose names it fits. -/
namespace IPsecControl.Shell

/-- A character of a field, the sign that a field is there, or a gap between fields. -/
inductive Mark where
  | here
  | char (c : QuotedChar)
  | gap (c : Char)
  deriving DecidableEq, Repr

def State.separators (s : State) : List Char :=
  ((s.settings.lookup "IFS").getD " \t\n").toList

/-- A value in place of a piece; outside quotes its separators are gaps. -/
def State.marks (s : State) (quoted : Bool) (text : List Char) : List Mark :=
  if quoted then text.map fun c => .char (c, true)
  else text.map fun c => if s.separators.contains c then .gap c else .char (c, false)

/-- The arguments of the shell, each a field of its own. -/
def argumentMarks (args : List String) : List Mark :=
  [.gap ' '].intercalate (args.map fun arg => .here :: arg.toList.map fun c => .char (c, true))

/-- The fields between gaps. -/
def fields : Option (List QuotedChar) → List Mark → List (List QuotedChar)
  | none, [] => []
  | some field, [] => [field.reverse]
  | none, .gap _ :: rest => fields none rest
  | some field, .gap _ :: rest => field.reverse :: fields none rest
  | field, .here :: rest => fields (some (field.getD [])) rest
  | field, .char c :: rest => fields (some (c :: field.getD [])) rest

/-- The characters of marks that are one field, gaps or not. -/
def quotedChars (ms : List Mark) : List QuotedChar :=
  ms.filterMap fun
    | .here => none
    | .char c => some c
    | .gap c => some (c, false)

def textOf (cs : List QuotedChar) : String := String.ofList (cs.map (·.1))

/-- The files whose names a field stands for, or the field as it is. -/
def fileNames (s : State) (field : List QuotedChar) : List String :=
  if s.has 'f' || !field.any fun c => [('*', false), ('?', false), ('[', false)].contains c then
    [textOf field]
  else
    let ps := Pattern.ofChars field
    let names := (s.files.map (·.1)).filter fun name =>
      Pattern.matchesAll ps name.toList && (!name.startsWith "." || ps.head? == some (.literal '.'))
    if names.isEmpty then [textOf field] else names.mergeSort fun a b => !decide (b < a)

/-- A word that assigns: its name, and the pieces of the value. -/
def assignment? (word : Word) : Option (String × Word) :=
  let name := word.takeWhile fun p => p matches .char _ false && p ≠ .char '=' false
  let text := name.filterMap fun | .char c _ => some c | _ => none
  match word.drop name.length, text with
  | .char '=' false :: value, c :: cs =>
    if isNameStart c ∧ cs.all isNameChar then some (String.ofList text, value) else none
  | _, _ => none

end IPsecControl.Shell
