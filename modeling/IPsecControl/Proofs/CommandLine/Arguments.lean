import IPsecControl.CommandLine.Invocation
import IPsecControl.Proofs.Error.Requirements
import IPsecControl.Proofs.Text.Scan
import Mathlib.Data.List.Nodup

/-! Arguments and what they give. Whatever the order and the spelling of the options, the settings that come out of
accepted arguments are the texts that the arguments give, in order, each read as a value of its option. -/
namespace IPsecControl.CommandLine

open Text

/-! ### Forms of arguments -/

/-- An option by its name, alone or with a value behind an equals sign. -/
def spelled (name : String) : Option String → String
  | none => "--" ++ name
  | some value => "--" ++ name ++ "=" ++ value

theorem ofText_hyphens {text : String} {cs : List Char} (hyphens : text.toList = '-' :: '-' :: cs)
    (some : cs ≠ []) :
    Argument.ofText text = .long (.ofList (cs.takeWhile (· ≠ '='))) (match cs.dropWhile (· ≠ '=') with
      | [] => none
      | _ :: value => Option.some (.ofList value)) := by
  obtain ⟨c, rest, rfl⟩ := List.exists_cons_of_ne_nil some
  rw [← drop_takeWhile]
  unfold Argument.ofText
  rw [hyphens]
  rfl

theorem of_ofText_long {text name : String} {value : Option String}
    (form : Argument.ofText text = .long name value) :
    text = spelled name value ∧ '=' ∉ name.toList ∧ text ≠ "--" := by
  unfold Argument.ofText at form
  split at form
  next => contradiction
  next cs more hyphens =>
    dsimp only at form
    rw [drop_takeWhile] at form
    have whole := List.takeWhile_append_dropWhile (p := (· ≠ '=')) (l := cs)
    have stops := List.head?_dropWhile_not (· ≠ '=') cs
    have within : ∀ c ∈ cs.takeWhile (· ≠ '='), decide (c ≠ '=') = true := fun c => List.mem_takeWhile_imp
    obtain ⟨rfl, rfl⟩ := Argument.long.inj form
    generalize cs.takeWhile (· ≠ '=') = front at whole within ⊢
    generalize cs.dropWhile (· ≠ '=') = behind at whole stops ⊢
    obtain rfl := whole
    refine ⟨?_, ?_, ?_⟩
    · rw [← String.toList_inj, hyphens]
      cases behind with
      | nil => simp [spelled]
      | cons d value =>
        obtain rfl : d = '=' := by simpa using stops
        simp [spelled]
    · rw [String.toList_ofList]
      intro member
      simpa using within _ member
    · rintro rfl
      exact more (by simpa using hyphens)
  next => contradiction
  next => contradiction

/-- The name of a long option ends at the first equals sign. -/
theorem ofText_spelled {name : String} (named : name ≠ "") (plain : '=' ∉ name.toList) (value : Option String) :
    Argument.ofText (spelled name value) = .long name value := by
  have within : ∀ c ∈ name.toList, decide (c ≠ '=') = true := by
    intro c member
    exact decide_eq_true fun same => plain (same ▸ member)
  have nonempty : name.toList ≠ [] := fun empty => named (String.toList_inj.mp empty)
  cases value with
  | none =>
    have hyphens : (spelled name none).toList = '-' :: '-' :: name.toList := by simp [spelled]
    rw [ofText_hyphens hyphens nonempty, List.takeWhile_eq_self_iff.mpr within, List.dropWhile_eq_nil_iff.mpr within,
      String.ofList_toList]
  | some value =>
    have hyphens : (spelled name (some value)).toList = '-' :: '-' :: (name.toList ++ '=' :: value.toList) := by
      simp [spelled]
    obtain ⟨taken, left⟩ := takeWhile_append within (head_stops (c := '=') rfl value.toList)
    rw [ofText_hyphens hyphens (by simp), taken, left, String.ofList_toList]
    simp only [String.ofList_toList]

theorem plain_eq {text other : String} (form : Argument.ofText text = .plain other) : other = text := by
  unfold Argument.ofText at form
  split at form <;> cases form
  rfl

/-! ### One argument -/

/-- An argument that names an option of the level, and the value that it brings. -/
inductive Mentions (level : Level) (text : String) : Opt → Option String → Prop where
  | long {o : Opt} {name : String} {value : Option String} (form : Argument.ofText text = .long name value)
      (named : level.named? name = some o) : Mentions level text o value
  | short {o : Opt} {letter : Char} {behind : List Char} (form : Argument.ofText text = .short letter behind)
      (lettered : level.lettered? letter = some o) : Mentions level text o (attached? behind)

namespace Reading
variable {level : Level} {r next : Reading} {text : String} {o : Opt} {value : Option String}
  {start settings : Settings}

/-- What reading one argument can do. The value that is still open is settled first. -/
inductive Takes (level : Level) (r : Reading) (text : String) : Reading → Prop where
  | flag {o : Opt} {value : Option String} {start settings : Settings} (mentions : Mentions level text o value)
      (kind : o.kind = .flag) (settled : r.settle = .ok start) (put : start.put o "" = .ok settings) :
      Takes level r text { settings }
  | joined {o : Opt} {value : String} {start settings : Settings} (mentions : Mentions level text o (some value))
      (kind : o.kind ≠ .flag) (settled : r.settle = .ok start) (put : start.put o value = .ok settings) :
      Takes level r text { settings }
  | apart {o : Opt} {start : Settings} (mentions : Mentions level text o none) (kind : o.kind ≠ .flag)
      (settled : r.settle = .ok start) :
      Takes level r text { settings := start, pending := some ⟨o, none⟩ }
  | value {o : Opt} (awaits : r.pending = some ⟨o, none⟩) (form : Argument.ofText text = .plain text) :
      Takes level r text { r with pending := some ⟨o, some text⟩ }

theorem flag_takes (mentions : Mentions level text o value) (kind : o.kind = .flag)
    (read : r.flag o = .ok next) : Takes level r text next := by
  obtain ⟨start, settled, read⟩ := Result.ok_of_bind read
  split at read
  next => contradiction
  split at read
  next => contradiction
  obtain ⟨settings, put, read⟩ := Result.ok_of_bind read
  cases read
  exact .flag mentions kind settled put

theorem option_takes (mentions : Mentions level text o value) (kind : o.kind ≠ .flag)
    (read : r.option o value = .ok next) : Takes level r text next := by
  obtain ⟨start, settled, read⟩ := Result.ok_of_bind read
  cases value with
  | none =>
    cases read
    exact .apart mentions kind settled
  | some value =>
    obtain ⟨settings, put, read⟩ := Result.ok_of_bind read
    cases read
    exact .joined mentions kind settled put

theorem long_takes {name : String} (form : Argument.ofText text = .long name value)
    (read : r.long level name value = .ok next) : Takes level r text next := by
  unfold long at read
  split at read
  next => contradiction
  next o value named =>
    split at read
    next => contradiction
    next kind => exact option_takes (.long form named) kind read
  next o named =>
    split at read
    next kind => exact flag_takes (.long form named) kind read
    next kind => exact option_takes (.long form named) kind read

theorem short_takes {letter : Char} {behind : List Char} (form : Argument.ofText text = .short letter behind)
    (read : r.short level letter behind = .ok next) : Takes level r text next := by
  unfold short at read
  split at read
  next => contradiction
  next o lettered =>
    split at read
    next kind => exact flag_takes (.short form lettered) kind read
    next kind => exact option_takes (.short form lettered) kind read

theorem plain_takes {other : String} (form : Argument.ofText text = .plain other)
    (read : r.plain level other = .ok next) : Takes level r text next := by
  unfold plain at read
  split at read
  next o awaits =>
    cases read
    obtain rfl := plain_eq form
    exact .value awaits form
  next => contradiction
  next => contradiction

end Reading

variable {level : Level} {r r' : Reading} {text : String} {rest : List String}
  {out : Option (Verb × List String)}

/-- In front of the command, an argument may be the command. -/
theorem command_or {otherwise : Except Failure (Reading × Option (Verb × List String))}
    (done : (if level = .top ∧ (!r.awaits) = true then
        if text = helpName then Except.error (helpAbout rest)
        else match Verb.ofName? text with
          | some verb => Except.ok (r, some (verb, rest))
          | _ => otherwise
      else otherwise) = .ok (r', out)) :
    (level = .top ∧ r' = r ∧ ∃ verb, Verb.ofName? text = some verb ∧ out = some (verb, rest)) ∨
      otherwise = .ok (r', out) := by
  split at done
  next front =>
    split at done
    next => contradiction
    split at done
    next verb named =>
      cases done
      exact .inl ⟨front.1, rfl, verb, named, rfl⟩
    next => exact .inr done
  next => exact .inr done

/-- Reading comes to a command, or to the end of the options, or goes on behind the argument. -/
theorem read_cons (done : read level r (text :: rest) = .ok (r', out)) :
    (level = .top ∧ r' = r ∧ ∃ verb, Verb.ofName? text = some verb ∧ out = some (verb, rest)) ∨
    (Argument.ofText text = .escape ∧ rest = [] ∧ r' = r ∧ out = none) ∨
    ∃ next, r.Takes level text next ∧ read level next rest = .ok (r', out) := by
  unfold read at done
  simp only [bind, Except.bind, pure, Except.pure] at done
  refine (command_or done).imp_right fun done => ?_
  split at done
  next form =>
    split at done
    next =>
      cases done
      exact .inl ⟨form, rfl, rfl, rfl⟩
    next => contradiction
  next name value form =>
    split at done
    next => contradiction
    next next taken => exact .inr ⟨next, Reading.long_takes form taken, done⟩
  next letter behind form =>
    split at done
    next => contradiction
    next next taken => exact .inr ⟨next, Reading.short_takes form taken, done⟩
  next other form =>
    split at done
    next => contradiction
    next next taken => exact .inr ⟨next, Reading.plain_takes form taken, done⟩

/-! ### All arguments -/

/-- The texts that arguments give to options, in order. The first argument may be the value of an option in front
of them. -/
inductive Spells (level : Level) : Option Opt → List String → List (Opt × String) → Prop where
  | done : Spells level none [] []
  | escape {text : String} (form : Argument.ofText text = .escape) : Spells level none [text] []
  | flag {text : String} {o : Opt} {value : Option String} {args : List String} {log : List (Opt × String)}
      (mentions : Mentions level text o value) (kind : o.kind = .flag) (rest : Spells level none args log) :
      Spells level none (text :: args) ((o, "") :: log)
  | joined {text : String} {o : Opt} {value : String} {args : List String} {log : List (Opt × String)}
      (mentions : Mentions level text o (some value)) (kind : o.kind ≠ .flag) (rest : Spells level none args log) :
      Spells level none (text :: args) ((o, value) :: log)
  | apart {text : String} {o : Opt} {args : List String} {log : List (Opt × String)}
      (mentions : Mentions level text o none) (kind : o.kind ≠ .flag) (rest : Spells level (some o) args log) :
      Spells level none (text :: args) log
  | value {text : String} {o : Opt} {args : List String} {log : List (Opt × String)}
      (form : Argument.ofText text = .plain text) (rest : Spells level none args log) :
      Spells level (some o) (text :: args) ((o, text) :: log)

/-- Gives options, one after the other. -/
def Settings.putAll (s : Settings) (log : List (Opt × String)) : Except Failure Settings :=
  log.foldlM (fun s (o, text) => s.put o text) s

theorem Settings.putAll_single (s : Settings) (o : Opt) (text : String) : s.putAll [(o, text)] = s.put o text :=
  bind_pure (s.put o text)

theorem Settings.putAll_append {s after : Settings} {first : List (Opt × String)}
    (begun : s.putAll first = .ok after) (log : List (Opt × String)) :
    s.putAll (first ++ log) = after.putAll log := by
  rw [putAll, List.foldlM_append]
  exact congrArg (· >>= _) begun

namespace Reading

/-- The option that the next argument is the value of. -/
def awaited? (r : Reading) : Option Opt :=
  match r.pending with
  | some ⟨o, none⟩ => some o
  | _ => none

/-- The settings, but for an option that awaits its value. -/
def base (r : Reading) : Except Failure Settings :=
  match r.pending with
  | some ⟨_, none⟩ => .ok r.settings
  | _ => r.settle

theorem base_of_settle {r : Reading} {start : Settings} (settled : r.settle = .ok start) :
    r.awaited? = none ∧ r.base = .ok start := by
  obtain ⟨settings, pending⟩ := r
  obtain _ | ⟨o, _ | text⟩ := pending
  · exact ⟨rfl, settled⟩
  · contradiction
  · exact ⟨rfl, settled⟩

theorem Takes.spells {level : Level} {r next : Reading} {text : String} {after : Settings}
    (takes : r.Takes level text next) (based : next.base = .ok after) :
    ∃ start first, r.base = .ok start ∧ start.putAll first = .ok after ∧
      ∀ args log, Spells level next.awaited? args log → Spells level r.awaited? (text :: args) (first ++ log) := by
  cases takes with
  | flag mentions kind settled put =>
    obtain ⟨awaited, base⟩ := base_of_settle settled
    cases based
    refine ⟨_, [(_, "")], base, (Settings.putAll_single _ _ _).trans put, ?_⟩
    intro args log rest
    rw [awaited]
    exact .flag mentions kind rest
  | joined mentions kind settled put =>
    obtain ⟨awaited, base⟩ := base_of_settle settled
    cases based
    refine ⟨_, [(_, _)], base, (Settings.putAll_single _ _ _).trans put, ?_⟩
    intro args log rest
    rw [awaited]
    exact .joined mentions kind rest
  | apart mentions kind settled =>
    obtain ⟨awaited, base⟩ := base_of_settle settled
    refine ⟨_, [], base, based, ?_⟩
    intro args log rest
    rw [awaited]
    exact .apart mentions kind rest
  | @value o awaits form =>
    obtain ⟨settings, pending⟩ := r
    obtain rfl : pending = some ⟨o, none⟩ := awaits
    refine ⟨settings, [(o, text)], rfl, (Settings.putAll_single _ _ _).trans based, ?_⟩
    intro args log rest
    exact .value form rest

end Reading

theorem Verb.name_of_ofName? {name : String} {verb : Verb} (named : Verb.ofName? name = some verb) :
    verb.name = name := by
  unfold Verb.ofName? at named
  have same := List.find?_some named
  exact of_decide_eq_true same

/-- The arguments that were not read. -/
def unread : Option (Verb × List String) → List String
  | none => []
  | some (verb, rest) => verb.name :: rest

theorem read_spells {args : List String} {final : Settings} (done : read level r args = .ok (r', out))
    (settled : r'.settle = .ok final) :
    ∃ start front log, r.base = .ok start ∧ args = front ++ unread out ∧
      Spells level r.awaited? front log ∧ start.putAll log = .ok final := by
  induction args generalizing r with
  | nil =>
    cases done
    obtain ⟨awaited, base⟩ := Reading.base_of_settle settled
    exact ⟨final, [], [], base, rfl, awaited ▸ .done, rfl⟩
  | cons text rest ih =>
    obtain ⟨-, rfl, verb, named, rfl⟩ | ⟨form, rfl, rfl, rfl⟩ | ⟨next, takes, done⟩ := read_cons done
    · obtain ⟨awaited, base⟩ := Reading.base_of_settle settled
      have command := Verb.name_of_ofName? named
      exact ⟨final, [], [], base, congrArg (· :: rest) command.symm, awaited ▸ .done, rfl⟩
    · obtain ⟨awaited, base⟩ := Reading.base_of_settle settled
      exact ⟨final, [text], [], base, rfl, awaited ▸ .escape form, rfl⟩
    · obtain ⟨after, front, log, based, rfl, spells, put⟩ := ih done
      obtain ⟨start, first, base, begun, extend⟩ := takes.spells based
      refine ⟨start, text :: front, first ++ log, base, rfl, extend front log spells, ?_⟩
      rw [Settings.putAll_append begun, put]

/-- There is no command behind a command. -/
theorem read_inside {verb : Verb} {args : List String} (done : read (.inside verb) r args = .ok (r', out)) :
    out = none := by
  induction args generalizing r with
  | nil =>
    cases done
    rfl
  | cons text rest ih =>
    obtain ⟨top, -⟩ | ⟨-, -, -, ended⟩ | ⟨next, -, done⟩ := read_cons done
    · contradiction
    · exact ended
    · exact ih done

end IPsecControl.CommandLine
