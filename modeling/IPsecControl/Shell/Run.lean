import IPsecControl.Shell.Arithmetic
import IPsecControl.Shell.Field
import IPsecControl.Shell.Parameter
import IPsecControl.Shell.Program
import IPsecControl.Shell.Redirection

/-! Running scripts. Words are expanded to fields, the first of which names a command of the
shell, a function, or a program. -/
namespace IPsecControl.Shell
open Text

/-- The state behind a turn of a loop, and whether the loop goes on. -/
def State.afterTurn (s : State) : State × Bool :=
  match s.leaving with
  | none => (s, true)
  | some (.loops n) => ({ s with leaving := if n ≤ 1 then none else some (.loops (n - 1)) }, false)
  | some (.turn n) =>
    if n ≤ 1 then ({ s with leaving := none }, true)
    else ({ s with leaving := some (.turn (n - 1)) }, false)
  | some _ => (s, false)

/-- The state of a script that cannot change what the shell knows, as it begins. -/
def State.apart (s : State) : State :=
  { s with traps := s.traps.filter (·.2 = ""), pending := [], loops := 0 }

/-- Gives variables of a function back what they held outside it. -/
def State.afterCall (before after : State) : State :=
  let settings := after.outside.foldr (fun (name, value?) vs =>
    match value? with
    | some value => (name, value) :: vs.filter (·.1 ≠ name)
    | none => vs.filter (·.1 ≠ name)) after.settings
  { after with
    settings, arguments := before.arguments, outside := before.outside, loops := before.loops
    calls := before.calls
    leaving := if after.leaving = some .function then none else after.leaving }

/-- The words of a command line as they are shown when commands are traced. -/
def traceLine (argv : List String) : String := "+ " ++ " ".intercalate argv

mutual

/-- The marks of a word, and the state behind it. -/
def expand (host : Host) (line : Nat) : Nat → Word → State → List Mark × State
  | 0, _, s | _ + 1, [], s => ([], s)
  | fuel + 1, piece :: rest, s =>
    if s.leaving.isSome then ([], s)
    else
      let (front, s) := match piece with
        | .quotes => ([Mark.here], s)
        | .char c quoted => ([if !quoted && isBlank c then .gap c else .char (c, quoted)], s)
        | .parameter name quoted =>
          if name = "@" && quoted then (argumentMarks s.arguments, s)
          else
            match s.value? name with
            | some value => (s.marks quoted value.toList, s)
            | none =>
              if s.has 'u' && name ≠ "@" && name ≠ "*" then
                ([], s.failOf line (name ++ ": parameter not set"))
              else ([], s)
        | .braced text quoted => expandBraced host line fuel quoted text s
        | .arithmetic text quoted =>
          let (expression, s) := expandText host line fuel text s
          if s.leaving.isSome then ([], s)
          else
            match Arithmetic.evaluate s.settings expression.toList with
            | .ok (n, settings) => (s.marks quoted (signedDecimal n).toList, { s with settings })
            | .error e => ([], s.failOf line (e.message expression))
        | .substitution script quoted =>
          let (bytes, t) := s.capture fun s =>
            s.rejoin (conclude host line fuel (runText host line fuel script s.apart))
          let out := (Utf8.lossy (bytes.filter (· ≠ 0))).reverse.dropWhile (· = '\n')
          (s.marks quoted out.reverse, { t with status := s.status, substituted := t.status })
      let (more, s) := expand host line fuel rest s
      (front ++ more, s)
termination_by structural fuel => fuel

/-- The text of a word in which double quotes have no meaning. -/
def expandText (host : Host) (line : Nat) : Nat → List Char → State → String × State
  | 0, _, s => ("", s)
  | fuel + 1, text, s =>
    match readText text with
    | .error e => ("", s.failOf line ("Syntax error: " ++ e.message))
    | .ok word =>
      let (ms, s) := expand host line fuel word s
      (textOf (quotedChars ms), s)
termination_by structural fuel => fuel

/-- What braces make of a parameter. -/
def expandBraced (host : Host) (line : Nat) (fuel : Nat) (quoted : Bool) (text : List Char)
    (s : State) : List Mark × State :=
  match fuel with
  | 0 => ([], s)
  | fuel + 1 =>
    let inside (word : List Char) : List Mark × State :=
      match readInside quoted word with
      | .error e => ([], s.failOf line ("Syntax error: " ++ e.message))
      | .ok word => expand host line fuel word s
    match operation? text with
    | none => ([], s.failOf line "Bad substitution")
    | some (name, operation) =>
      let value := (s.value name).toList
      match operation with
      | .length => (s.marks quoted (digits (s.value name).utf8ByteSize), s)
      | .dropFront longest pattern =>
        let (ms, s) := inside pattern
        (s.marks quoted (withoutFront longest (Pattern.ofChars (quotedChars ms)) value), s)
      | .dropEnd longest pattern =>
        let (ms, s) := inside pattern
        (s.marks quoted (withoutEnd longest (Pattern.ofChars (quotedChars ms)) value), s)
      | .fallback kind emptyIsNone word =>
        let present := (s.value? name).any fun v => !(emptyIsNone && v = "")
        match kind, present with
        | .invert, true => inside word
        | .invert, false => ([], s)
        | _, true => (s.marks quoted value, s)
        | .use, false => inside word
        | .assign, false =>
          let (ms, s) := inside word
          (ms, s.set line name (textOf (quotedChars ms)))
        | .fail, false =>
          let (ms, s) := inside word
          let message := if word.isEmpty then "parameter not set" else textOf (quotedChars ms)
          ([], s.failOf line (name ++ ": " ++ message))
termination_by structural fuel

/-- The fields of words in a row. -/
def expandAll (host : Host) (line : Nat) : Nat → List Word → State → List String × State
  | 0, _, s | _ + 1, [], s => ([], s)
  | fuel + 1, word :: rest, s =>
    let (ms, s) := expand host line fuel word s
    let front := (fields none ms).flatMap (fileNames s)
    let (more, s) := expandAll host line fuel rest s
    (front ++ more, s)
termination_by structural fuel => fuel

def assignAll (host : Host) (line : Nat) : Nat → List (String × Word) → State → State
  | 0, _, s | _ + 1, [], s => s
  | fuel + 1, (name, value) :: rest, s =>
    let (ms, s) := expand host line fuel value s
    if s.leaving.isSome then s
    else assignAll host line fuel rest (s.set line name (textOf (quotedChars ms)))
termination_by structural fuel => fuel

/-- Applies redirections, in order, up to one that fails. -/
def redirectAll (host : Host) (line : Nat) : Nat → List Redirect → State → Bool × State
  | 0, _, s | _ + 1, [], s => (true, s)
  | fuel + 1, r :: rest, s =>
    let word := match r with
      | .toFile _ _ w | .fromFile _ w | .fromText _ w | .duplicate _ w => w
    let (ms, s) := expand host line fuel word s
    let text := textOf (quotedChars ms)
    let outcome := match r with
      | .toFile descriptor append _ => openOutput append descriptor text s
      | .fromFile descriptor _ => openInput descriptor text s
      | .fromText descriptor _ =>
        .ok (if descriptor = 0 then { s with input := Utf8.bytes text } else s)
      | .duplicate descriptor _ => duplicate descriptor text s
    match outcome with
    | .ok s => if s.leaving.isSome then (false, s) else redirectAll host line fuel rest s
    | .error message => (false, (s.complainOf line message).withStatus 2)
termination_by structural fuel => fuel

/-- Runs a program, and tells how it ended. A shell is a program that begins anew. -/
def runProgram (host : Host) (line : Nat) (said : String) (fuel : Nat) (name : String)
    (args : List String) (s : State) : State × Ending :=
  match fuel with
  | 0 => (s, .exited 0)
  | fuel + 1 =>
    let done (t : State) : State × Ending := (t, .exited t.status)
    match host (name :: args), programName name with
    | some f, _ => ((s.print f.stdout).write 2 f.stderr, f.ending)
    | none, "cat" => done (concatenate args s)
    | none, "sleep" => (s, .exited 0)
    | none, "sh" | none, "dash" =>
      let (script?, name, rest) := match args with
        | "-c" :: text :: rest => (some text.toList, rest.headD name, rest.drop 1)
        | path :: rest => ((s.files.lookup (Condition.fileName path)).map Utf8.lossy, path, rest)
        | [] => (some (Utf8.lossy s.input), name, [])
      match script? with
      | some script =>
        let t := runText host 1 fuel script {
          name, process := s.process ++ "1", arguments := rest
          settings := s.settings.filter (s.exported.contains ·.1), exported := s.exported
          directory := s.directory, files := s.files
          input := s.input, descriptors := s.descriptors, kept := s.kept }
        let t := conclude host 1 fuel t
        ({ s with kept := t.kept, files := t.files, input := t.input }, t.ending)
      | none => (s.printLine ("sh: 0: cannot open " ++ name ++ ": No such file"), .exited 2)
    | none, base =>
      if base ≠ name && commonPrograms.contains base then
        done (((builtin? line base args).getD id) s)
      else done (s.missing line said name)
termination_by structural fuel

def runCommand (host : Host) (line : Nat) : Nat → String → List String → State → State
  | 0, _, _, s => s
  | fuel + 1, name, args, s =>
    match s.functions.lookup name with
    | some body =>
      s.afterCall (run host fuel body
        { s with arguments := args, outside := [], loops := 0, calls := s.calls + 1 })
    | none => runPlain host line fuel name args s
termination_by structural fuel => fuel

/-- Runs a command that is no function. -/
def runPlain (host : Host) (line : Nat) : Nat → String → List String → State → State
  | 0, _, _, s => s
  | fuel + 1, name, args, s =>
    match name, args with
    | "eval", _ =>
      let t := runText host line fuel (" ".intercalate args).toList
        { s with status := 0, speaker := "eval: " }
      { t with speaker := s.speaker }
    | ".", [] => s.withStatus 0
    | ".", path :: _ =>
      match s.files.lookup (Condition.fileName path), path.toList.contains '/' with
      | some bytes, true => runText host 1 fuel (Utf8.lossy bytes) (s.withStatus 0)
      | none, true =>
        if path = "/dev/null" then s.withStatus 0
        else s.fail line (".: cannot open " ++ path ++ ": No such file")
      | _, false => s.fail line (".: " ++ path ++ ": not found")
    | "exec", [] => s.withStatus 0
    | "exec", program :: rest =>
      match builtin? line program rest with
      | some command =>
        let t := command s
        t.finish t.ending
      | none =>
        let (t, ending) := runProgram host line "exec: " fuel program rest s
        t.finish ending
    | "command", "-V" :: program :: _ => describe [program] s
    | "command", "-v" :: program :: _ =>
      match commandKind? s program with
      | some _ => (s.print (Utf8.bytes (program ++ "\n"))).withStatus 0
      | none => s.withStatus 127
    | "command", program :: rest => runPlain host line fuel program rest s
    | "command", [] => s.withStatus 0
    | _, _ =>
      match builtin? line name args with
      | some command =>
        if (s.target? 1).isNone && (name = "echo" || name = "printf") then
          s.refuse line 1 (name ++ ": " ++ name ++ ": I/O error")
        else command s
      | none =>
        let (t, ending) := runProgram host line "" fuel name args s
        t.adopt ending
termination_by structural fuel => fuel

def runSimple (host : Host) : Nat → SimpleCommand → State → State
  | 0, _, s => s
  | fuel + 1, c, s =>
    let assigning := c.words.takeWhile fun w => (assignment? w).isSome
    let assignments := assigning.filterMap assignment?
    let (argv, s) :=
      expandAll host c.line fuel (c.words.drop assigning.length) { s with substituted := 0 }
    if s.leaving.isSome then s
    else
      match argv with
      | [] =>
        let (opened, t) := redirectAll host c.line fuel c.redirects s
        let t := { t with descriptors := s.descriptors, input := s.input }
        if !opened then t
        else
          let t := assignAll host c.line fuel assignments t
          if t.leaving.isSome then t else t.withStatus t.substituted
      | name :: args =>
        let special := specialCommands.contains name
        let (opened, t) := redirectAll host c.line fuel c.redirects s
        if !opened then
          let t := { t with descriptors := s.descriptors, input := s.input }
          if special && t.leaving.isNone then t.finish (.exited 2) else t
        else
          let exported := assignments.map (·.1) ++ t.exported
          let u := assignAll host c.line fuel assignments t
          let u := if s.has 'x' then u.printLine (traceLine argv) else u
          if u.leaving.isSome then { u with descriptors := s.descriptors }
          else if special then
            let u := runCommand host c.line fuel name args u
            if name = "exec" && args.isEmpty then u
            else { u with descriptors := s.descriptors
                          input := if c.redirects.isEmpty then u.input else s.input }
          else
            let v := runCommand host c.line fuel name args { u with exported }
            let v := if assignments.isEmpty then v else
              { v with settings := s.settings, exported := s.exported }
            { v with
              descriptors := s.descriptors
              input := if c.redirects.isEmpty then v.input else s.input }
termination_by structural fuel => fuel

def run (host : Host) : Nat → Script → State → State
  | 0, _, s => s
  | fuel + 1, script, s =>
    if s.leaving.isSome || s.has 'n' then s
    else
      match script with
      | .nothing => s.withStatus 0
      | .simple c => answer host c.line fuel ((runSimple host fuel c s).mind)
      | .apart body =>
        (s.rejoin (conclude host 1 fuel (run host fuel body s.apart))).mind
      | .background body =>
        let t := s.rejoin (run host fuel body { s.apart with input := [] })
        let process := s.process ++ decimal (2 + s.background.length)
        { t with
          input := s.input, status := 0, background := (process, t.status % 256) :: s.background }
      | .redirected line body redirects =>
        let (opened, t) := redirectAll host line fuel redirects s
        let t := if opened then run host fuel body t else t
        { t with descriptors := s.descriptors, input := s.input }
      | .negated body =>
        let t := s.testing (run host fuel body)
        if t.leaving.isSome then t else t.withStatus (if t.status = 0 then 1 else 0)
      | .pipe first second =>
        let (bytes, t) := s.capture fun s =>
          s.rejoin (run host fuel first { s.apart with tested := true })
        if t.leaving.isSome then t
        else
          let u := run host fuel second
            { t.apart with input := bytes, status := s.status, tested := true }
          { s.rejoin u with input := s.input }.mind
      | .both first second =>
        let t := s.testing (run host fuel first)
        if t.status = 0 then run host fuel second t else t
      | .either first second =>
        let t := s.testing (run host fuel first)
        if t.status = 0 then t else run host fuel second t
      | .sequence first second => run host fuel second (run host fuel first s)
      | .conditional test first second =>
        let t := s.testing (run host fuel test)
        if t.leaving.isSome then t
        else run host fuel (if t.status = 0 then first else second) t
      | .loop whileTrue test body =>
        let t := turns host whileTrue test body 0 fuel { s with loops := s.loops + 1 }
        { t with loops := s.loops }
      | .each line name words body =>
        let (values, s) := match words with
          | some words => expandAll host line fuel words s
          | none => (s.arguments, s)
        let t := turnsFor host line name body fuel values
          { s with loops := s.loops + 1, status := 0 }
        { t with loops := s.loops }
      | .choice line word cases =>
        let (ms, s) := expand host line fuel word s
        choose host line (textOf (quotedChars ms)) fuel cases (s.withStatus 0)
      | .definition name body =>
        { s with functions := (name, body) :: s.functions.filter (·.1 ≠ name), status := 0 }
termination_by structural fuel => fuel

/-- Turns of a loop with a test. -/
def turns (host : Host) (whileTrue : Bool) (test body : Script) (last : Nat) :
    Nat → State → State
  | 0, s => s
  | fuel + 1, s =>
    let t := s.testing (run host fuel test)
    if t.leaving.isSome then t.afterTurn.1
    else if (t.status = 0) ≠ whileTrue then t.withStatus last
    else
      match (run host fuel body t).afterTurn with
      | (u, true) => turns host whileTrue test body u.status fuel u
      | (u, false) => u
termination_by structural fuel => fuel

/-- Turns of a loop over values. -/
def turnsFor (host : Host) (line : Nat) (name : String) (body : Script) :
    Nat → List String → State → State
  | 0, _, s | _ + 1, [], s => s
  | fuel + 1, value :: rest, s =>
    match (run host fuel body (s.set line name value)).afterTurn with
    | (t, true) => turnsFor host line name body fuel rest t
    | (t, false) => t
termination_by structural fuel => fuel

/-- Runs the first case that has a pattern for a text. -/
def choose (host : Host) (line : Nat) (text : String) :
    Nat → List (List Word × Script) → State → State
  | 0, _, s | _ + 1, [], s => s
  | fuel + 1, (words, body) :: rest, s =>
    let patterns := words.map fun w => Pattern.ofChars (quotedChars (expand host line fuel w s).1)
    if patterns.any (Pattern.matchesAll · text.toList) then run host fuel body s
    else choose host line text fuel rest s
termination_by structural fuel => fuel

/-- Deals with the signals that arrived. -/
def answer (host : Host) (line : Nat) : Nat → State → State
  | 0, s => s
  | fuel + 1, s =>
    match s.pending with
    | [] => s
    | signal :: rest =>
      let text := (s.traps.lookup signal).getD ""
      let t := runText host line fuel text.toList { s with pending := rest }
      answer host line fuel (if t.leaving.isSome then t else t.withStatus s.status)
termination_by structural fuel => fuel

/-- Runs what is to be run when a shell ends. -/
def conclude (host : Host) (line : Nat) (fuel : Nat) (s : State) : State :=
  match fuel, s.traps.lookup 0, s.ending with
  | fuel + 1, some text, .exited code =>
    let t := runText host line fuel text.toList
      { s with traps := s.traps.filter (·.1 ≠ 0), leaving := none, status := code }
    if t.leaving.isSome then t else { t with leaving := s.leaving, status := code }
  | _, _, _ => s
termination_by structural fuel

/-- Runs the lines of a text, from a line number on. -/
def runText (host : Host) (line : Nat) : Nat → List Char → State → State
  | 0, _, s => s
  | fuel + 1, text, s => runTokens host fuel (tokens line text) s
termination_by structural fuel => fuel

/-- Runs tokens line by line; a line that cannot be read ends the shell. -/
def runTokens (host : Host) : Nat → List Token → State → State
  | 0, _, s | _ + 1, [], s => s
  | fuel + 1, t :: ts, s =>
    if s.leaving.isSome || t.lexeme = .finish then s
    else if t.is "\n" then runTokens host fuel ts s
    else
      match Script.firstLine (t :: ts) with
      | .error e => s.failOf e.line ("Syntax error: " ++ e.error.message)
      | .ok (script, rest) => runTokens host fuel rest (run host fuel script s)
termination_by structural fuel => fuel

end

/-- How deep the commands of a text may lie in each other, loops counted by their turns. -/
def depthOf (text : String) : Nat := 20 * text.length + 20000

/-- What is wrong with a text in place of a script that the shell takes for options. -/
def optionFault? (text : String) : Option String :=
  match text.toList with
  | ['-', '-'] => some "-c requires an argument"
  | '-' :: letters | '+' :: letters =>
    match letters.find? fun c => !(optionLetters ++ ['c', 'l', 'o', 's']).contains c with
    | some letter => some ("Illegal option -" ++ String.singleton letter)
    | none => some "-c requires an argument"
  | _ => none

/-- Runs a text as a script, to its end, among files. -/
def execute (host : Host) (files : List (String × Bytes)) (text : String) : Finished :=
  let start : State := { files }
  let s := match optionFault? text with
    | some fault => start.fail 0 fault
    | none => conclude host 1 (depthOf text) (runText host 1 (depthOf text) text.toList start)
  { ending := s.ending, stdout := s.kept.getD 0 [], stderr := s.kept.getD 1 [] }

end IPsecControl.Shell
