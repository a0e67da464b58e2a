import IPsecControl.Log.Directive
import IPsecControl.Text.Split

/-! Filters of log lines, written as directives with commas between them. Of the directives
about a line, the one with the longest target decides. -/
namespace IPsecControl.Log
open Text

abbrev Filter := List Directive

namespace Filter

/-- What a level without directives stands for. -/
def least : Filter := [{ limit := Level.error.rank }]

def directiveTexts (text : String) : List (List Char) :=
  (split ',' text.toList).filter (!·.isEmpty)

/-- Reads a filter in which every directive has to be good. -/
def parseStrictly (text : String) : Except DirectiveError Filter :=
  (directiveTexts text).mapM Directive.parse

/-- Reads a filter and leaves out what is no directive. -/
def parse (text : String) : Except DirectiveError Filter := do
  let filter ← (directiveTexts text).filterMapM fun text =>
    match Directive.parse text with
    | .ok d => .ok (some d)
    | .error .malformed => .ok none
    | .error e => .error e
  return if filter.isEmpty then least else filter

/-- The directive that decides on a line; of two that count the same, the last. -/
def deciding? (filter : Filter) (line : Line) : Option Directive :=
  (filter.filter (·.concerns line)).foldl (fun best d =>
    match best with
    | some b => if b.yieldsTo d then some d else best
    | none => some d) none

def shows (filter : Filter) (line : Line) : Bool :=
  match filter.deciding? line with
  | some d => line.level.rank ≤ d.limit
  | none => false

end Filter

/-- The filter of a program: the one given from outside, if it is one, or else the level's.
A text that is cut inside of a character has neither. -/
def filterOf (outside : Option String) (level : String) : Option Filter :=
  match outside.map Filter.parseStrictly with
  | some (.ok filter) => some filter
  | some (.error .splitCharacter) => none
  | some (.error .malformed) | none => (Filter.parse level).toOption

end IPsecControl.Log
