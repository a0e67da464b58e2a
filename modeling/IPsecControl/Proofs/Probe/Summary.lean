import IPsecControl.Probe.Summary
import IPsecControl.Proofs.Text.Scan
import Mathlib.Algebra.Group.Nat.Defs

/-! Summaries of `ping`. A printout is described by its parts: a packet summary with its optional
counts, in either wording, and at most one line of round-trip times, in either format. Its statistics
are read from exactly those parts, or the first count that is too large is named. -/
namespace IPsecControl.Probe
open Text

/-! ### Numerals -/

theorem isDigit_range {c : Char} (digit : Binary64.isDigit c = true) : 48 ≤ c.toNat ∧ c.toNat ≤ 57 := by
  simp only [Binary64.isDigit, Bool.and_eq_true, decide_eq_true_eq] at digit
  exact ⟨digit.1, digit.2⟩

theorem digitValue?_of_isDigit {c : Char} (digit : Binary64.isDigit c = true) :
    digitValue? 10 c = some (c.toNat - 48) := by
  obtain ⟨low, high⟩ := isDigit_range digit
  have small : c.toNat - 48 < 10 := by omega
  simp [digitValue?, low, high, small]

theorem isDecimalDigit_of_isDigit {c : Char} (digit : Binary64.isDigit c = true) :
    isDecimalDigit c = true := by
  obtain ⟨low, high⟩ := isDigit_range digit
  have ascii : c.toNat < 0x80 := by omega
  simp [isDecimalDigit, ascii, low, high]

theorem le_digitsOnto (ds : List Char) (n : Nat) :
    n ≤ ds.foldl (fun n c => n * 10 + (c.toNat - 48)) n := by
  induction ds generalizing n with
  | nil => exact Nat.le_refl n
  | cons c ds ih => exact Nat.le_trans (by omega) (ih (n * 10 + (c.toNat - 48)))

/-- Digits are read as their value, or it is above the limit. -/
theorem readDigits_value {limit : Nat} {excess : NumeralError} {ds : List Char}
    (ascii : ∀ c ∈ ds, Binary64.isDigit c = true) {n : Nat} (low : n ≤ limit) :
    readDigits 10 limit excess n ds =
      if ds.foldl (fun n c => n * 10 + (c.toNat - 48)) n ≤ limit
      then .ok (ds.foldl (fun n c => n * 10 + (c.toNat - 48)) n) else .error excess := by
  induction ds generalizing n with
  | nil => exact (if_pos low).symm
  | cons c ds ih =>
    obtain ⟨digit, ascii⟩ := List.forall_mem_cons.mp ascii
    rw [readDigits, digitValue?_of_isDigit digit, List.foldl_cons]
    by_cases small : n * 10 + (c.toNat - 48) ≤ limit
    · simp only [if_neg (Nat.not_lt.mpr small)]
      exact ih ascii small
    · have large := le_digitsOnto ds (n * 10 + (c.toNat - 48))
      simp only [if_pos (Nat.not_le.mp small)]
      rw [if_neg (by omega)]

/-- A decimal numeral. Zeros may stand in front. -/
structure Numeral where
  digits : List Char
  nonempty : digits ≠ []
  ascii : digits.all Binary64.isDigit = true

namespace Numeral

def value (n : Numeral) : Nat := Binary64.digitsValue n.digits

theorem readBounded_eq (n : Numeral) (limit : Nat) :
    readBounded 10 limit n.digits = if n.value ≤ limit then .ok n.value else .error .tooLarge := by
  obtain ⟨digits, nonempty, ascii⟩ := n
  rw [List.all_eq_true] at ascii
  obtain ⟨c, rest, rfl⟩ := List.exists_cons_of_ne_nil nonempty
  have unsigned : c ≠ '+' := fun plus => absurd (ascii c List.mem_cons_self) (plus ▸ by decide)
  rw [readBounded.eq_4 _ _ _ (by simp) (by simp [unsigned]) (by simp [unsigned])]
  exact readDigits_value ascii (Nat.zero_le limit)

/-- A count is the value of its numeral, or it is named because it is too large. -/
theorem count_eq (n : Numeral) (field : String) :
    count field n.digits =
      if 2 ^ 32 ≤ n.value then .error (invalidField field n.digits) else .ok n.value := by
  rw [count, n.readBounded_eq]
  by_cases large : 2 ^ 32 ≤ n.value
  · rw [if_pos large, if_neg (by omega)]
    rfl
  · rw [if_neg large, if_pos (by omega)]
    rfl

theorem run (n : Numeral) {rest : List Char} (stops : ∀ c ∈ rest.head?, isDecimalDigit c = false) :
    run? isDecimalDigit (n.digits ++ rest) = some (n.digits, rest) :=
  have within := List.all_eq_true.mp n.ascii
  run?_append n.nonempty (fun c member => isDecimalDigit_of_isDigit (within c member)) stops

end Numeral

structure DecimalText where
  whole : List Char
  places : Option (List Char) := none
  nonempty : whole ++ places.getD [] ≠ []
  ascii : (whole ++ places.getD []).all Binary64.isDigit = true

namespace DecimalText

def chars (d : DecimalText) : List Char :=
  d.whole ++ (d.places.map ('.' :: ·)).getD []

/-- The number nearest to the decimal. -/
def value (d : DecimalText) : Binary64 :=
  .ofRatio (Binary64.digitsValue (d.whole ++ d.places.getD [])) (Nat.pow 10 (d.places.getD []).length)

theorem read?_chars (d : DecimalText) : Binary64.read? d.chars = some d.value := by
  obtain ⟨whole, places, nonempty, ascii⟩ := d
  obtain ⟨digits, ascii⟩ := List.forall_mem_append.mp (List.all_eq_true.mp ascii)
  cases places with
  | none =>
    have taken : whole.takeWhile Binary64.isDigit = whole := List.takeWhile_eq_self_iff.mpr digits
    have left : whole.dropWhile Binary64.isDigit = [] := List.dropWhile_eq_nil_iff.mpr digits
    simp [Binary64.read?, chars, value, taken, left, List.append_nil whole ▸ nonempty]
  | some places =>
    obtain ⟨taken, left⟩ := takeWhile_append digits (head_stops (c := '.') rfl places)
    have behind : places.all Binary64.isDigit = true := List.all_eq_true.mpr ascii
    have digits : (whole.isEmpty && places.isEmpty) = false := by simpa using nonempty
    simp only [Binary64.read?, chars, value, Option.map_some, Option.getD_some, taken, left]
    simp [behind, digits]

theorem fraction_eq (d : DecimalText) (field : String) : fraction field d.chars = .ok d.value := by
  rw [fraction, d.read?_chars]

theorem chars_ne_nil (d : DecimalText) : d.chars ≠ [] := by
  obtain ⟨whole, places, nonempty, -⟩ := d
  cases places with
  | none => exact nonempty
  | some places => exact List.append_ne_nil_of_right_ne_nil _ (List.cons_ne_nil _ _)

theorem chars_isFraction (d : DecimalText) : ∀ c ∈ d.chars, isFraction c = true := by
  obtain ⟨whole, places, -, ascii⟩ := d
  have digit {c : Char} (digit : Binary64.isDigit c = true) : isFraction c = true :=
    Bool.or_eq_true_iff.mpr (.inl (isDecimalDigit_of_isDigit digit))
  obtain ⟨front, ascii⟩ := List.forall_mem_append.mp (List.all_eq_true.mp ascii)
  refine List.forall_mem_append.mpr ⟨fun c member => digit (front c member), ?_⟩
  cases places with
  | none => exact List.forall_mem_nil _
  | some places => exact List.forall_mem_cons.mpr ⟨rfl, fun c member => digit (ascii c member)⟩

theorem unsigned (d : DecimalText) (rest : List Char) : (d.chars ++ rest).head? ≠ some '+' := by
  obtain ⟨c, cs, shape⟩ := List.exists_cons_of_ne_nil d.chars_ne_nil
  have fraction : isFraction c = true := d.chars_isFraction c (shape ▸ List.mem_cons_self)
  rw [shape]
  exact fun plus => absurd fraction (Option.some.inj plus ▸ by decide)

theorem run (d : DecimalText) {rest : List Char} (stops : ∀ c ∈ rest.head?, isFraction c = false) :
    run? isFraction (d.chars ++ rest) = some (d.chars, rest) :=
  run?_append d.chars_ne_nil d.chars_isFraction stops

end DecimalText

/-! ### Packet summaries -/

/-- A line of packet counts: in either wording, with or without duplicates and errors. -/
structure PacketLine where
  transmitted : Numeral
  received : Numeral
  wordy : Bool := false
  duplicates : Option Numeral := none
  errors : Option Numeral := none
  loss : DecimalText

/-- A count behind `, +` and its unit, if there is one. -/
def extraChars (unit : List Char) : Option Numeral → List Char
  | none => []
  | some n => [',', ' ', '+'] ++ (n.digits ++ ' ' :: unit)

theorem extraChars_none (unit : List Char) : extraChars unit none = [] := rfl

theorem extraChars_append (unit : List Char) (n : Numeral) (rest : List Char) :
    extraChars unit (some n) ++ rest = [',', ' ', '+'] ++ (n.digits ++ (' ' :: unit ++ rest)) := by
  simp [extraChars]

/-- A count is read if there is one. -/
theorem extra?_extraChars {unit rest : List Char} (apart : extra? unit rest = none) (n : Option Numeral) :
    extra? unit (extraChars unit n ++ rest) = n.map fun n => (n.digits, rest) := by
  cases n with
  | none => exact apart
  | some n =>
    have counted := n.run (head_stops (c := ' ') rfl (unit ++ rest))
    rw [extra?, extraChars_append]
    refine Option.bind_eq_some_iff.mpr ⟨_, literal?_append _ _, ?_⟩
    refine Option.bind_eq_some_iff.mpr ⟨_, counted, ?_⟩
    exact Option.bind_eq_some_iff.mpr ⟨_, literal?_append _ _, rfl⟩

/-- A count of another unit is left where it is. -/
theorem extra?_apart {c d : Char} (apart : c ≠ d) (unit other : List Char) (n : Numeral)
    (rest : List Char) : extra? (c :: unit) (extraChars (d :: other) (some n) ++ rest) = none := by
  have counted : run? isDecimalDigit (n.digits ++ (' ' :: d :: other ++ rest)) = _ :=
    n.run (head_stops (c := ' ') rfl _)
  have unnamed : literal? (' ' :: c :: unit) (' ' :: d :: other ++ rest) = none :=
    (literal?_common [' '] (c :: unit) _).trans (if_neg apart)
  rw [extra?, extraChars_append]
  simp only [literal?_append, Option.bind_eq_bind, Option.bind_some, counted, unnamed]
  rfl

/-- What is behind a comma is no count if there is no plus sign. -/
theorem extra?_unsigned (unit : List Char) {cs : List Char} (unsigned : cs.head? ≠ some '+') :
    extra? unit ([',', ' '] ++ cs) = none := by
  have apart : literal? [',', ' ', '+'] ([',', ' '] ++ cs) = none :=
    (literal?_common [',', ' '] ['+'] cs).trans (literal?_eq_none unsigned)
  rw [extra?, apart]
  rfl

namespace PacketLine

def chars (l : PacketLine) : List Char :=
  l.transmitted.digits ++ (" packets transmitted, ".toList ++ (l.received.digits ++ ([' '] ++
    ((if l.wordy then "packets ".toList else []) ++ ("received".toList ++
      (extraChars "duplicates".toList l.duplicates ++ (extraChars "errors".toList l.errors ++
        ([',', ' '] ++ (l.loss.chars ++ "% packet loss".toList)))))))))

/-- The fields of the line as they are printed. -/
def fields (l : PacketLine) : PacketFields where
  transmitted := l.transmitted.digits
  received := l.received.digits
  duplicates := l.duplicates.map (·.digits)
  loss := l.loss.chars

theorem packetFields?_chars (l : PacketLine) (rest : List Char) :
    packetFields? (l.chars ++ rest) = some l.fields := by
  obtain ⟨transmitted, received, wordy, duplicates, errors, loss⟩ := l
  have sent (cs : List Char) := transmitted.run
    (head_stops (c := ' ') rfl ("packets transmitted, ".toList ++ cs))
  have back (cs : List Char) := received.run (head_stops (c := ' ') rfl cs)
  have lost := loss.run (head_stops (c := '%') rfl (" packet loss".toList ++ rest))
  have worded (cs : List Char) : skipping "packets ".toList
      ((if wordy then "packets ".toList else []) ++ ("received".toList ++ cs)) =
        "received".toList ++ cs := by
    cases wordy with
    | true => exact skipping_append _ _
    | false => exact skipping_apart fun same => absurd (Option.some.inj same) (by decide)
  have unsigned (unit cs : List Char) : extra? unit ([',', ' '] ++ (loss.chars ++ cs)) = none :=
    extra?_unsigned unit (loss.unsigned cs)
  have unnamed (cs : List Char) : extra? "duplicates".toList
      (extraChars "errors".toList errors ++ ([',', ' '] ++ (loss.chars ++ cs))) = none := by
    cases errors with
    | none => exact unsigned _ _
    | some n => exact extra?_apart (by decide) _ _ n _
  have duplicated (cs : List Char) := extra?_extraChars (unnamed cs) duplicates
  have failed (cs : List Char) := extra?_extraChars (unsigned "errors".toList cs) errors
  simp only [chars, packetFields?, List.append_assoc]
  refine Option.bind_eq_some_iff.mpr ⟨_, sent _, ?_⟩
  refine Option.bind_eq_some_iff.mpr ⟨_, literal?_append _ _, ?_⟩
  refine Option.bind_eq_some_iff.mpr ⟨_, back _, ?_⟩
  refine Option.bind_eq_some_iff.mpr ⟨_, literal?_append [' '] _, ?_⟩
  simp only [worded]
  refine Option.bind_eq_some_iff.mpr ⟨_, literal?_append _ _, ?_⟩
  have ending {counts : Option (List Char)} : ((literal? [',', ' ']
      ([',', ' '] ++ (loss.chars ++ ("% packet loss".toList ++ rest)))).bind fun cs =>
        (run? isFraction cs).bind fun cs => (literal? "% packet loss".toList cs.2).bind fun _ =>
          some (PacketFields.mk transmitted.digits received.digits counts cs.1)) =
      some ⟨transmitted.digits, received.digits, counts, loss.chars⟩ := by
    refine Option.bind_eq_some_iff.mpr ⟨_, literal?_append _ _, ?_⟩
    refine Option.bind_eq_some_iff.mpr ⟨_, lost, ?_⟩
    exact Option.bind_eq_some_iff.mpr ⟨_, literal?_append "% packet loss".toList rest, rfl⟩
  simp only [duplicated]
  cases duplicates with
  | none | some n =>
    simp only [Option.map_none, Option.map_some, extraChars_none, List.nil_append, failed]
    cases errors with
    | none | some n => exact ending

/-- The first count that does not fit 32 bits. -/
def excess? (l : PacketLine) : Option (String × Numeral) :=
  ([("transmitted", l.transmitted), ("received", l.received)] ++
    (l.duplicates.map ("duplicates", ·)).toList).find? fun (_, n) => 2 ^ 32 ≤ n.value

end PacketLine

/-- A packet summary begins with a piece of a line that says what was transmitted. -/
theorem packetFields?_announces : Announces "packets transmitted".toList packetFields? := by
  intro cs f found
  obtain ⟨⟨sent, behind⟩, counted, found⟩ := Option.bind_eq_some_iff.mp found
  obtain ⟨behind', named, -⟩ := Option.bind_eq_some_iff.mp found
  obtain ⟨rfl, digits⟩ := of_run? counted
  obtain rfl := eq_append_of_literal? named
  refine ⟨sent ++ " packets transmitted, ".toList, ?_, ?_, ?_⟩
  · exact ⟨behind', List.append_assoc ..⟩
  · exact ⟨sent ++ [' '], ",".toList ++ [' '], by simp⟩
  · rw [List.mem_append, not_or]
    exact ⟨fun member => absurd (digits _ member) (by decide), by decide⟩

/-! ### Lines of round-trip times -/

/-- A line of round-trip times. One format has a deviation, the other does not. -/
structure Timing where
  min : DecimalText
  avg : DecimalText
  max : DecimalText
  mdev : Option DecimalText

/-- The label of a line with or without a deviation. -/
def timingLabel (deviates : Bool) : List Char :=
  if deviates then "rtt min/avg/max/mdev = ".toList else "round-trip min/avg/max = ".toList

theorem timingLabel_led (deviates : Bool) (cs : List Char) :
    (literal? "rtt".toList (timingLabel deviates ++ cs)).or
      (literal? "round-trip".toList (timingLabel deviates ++ cs)) =
      some (" min/avg/max".toList ++
        ((if deviates then "/mdev".toList else []) ++ (" = ".toList ++ cs))) := by
  cases deviates with
  | true =>
    have label : timingLabel true =
        "rtt".toList ++ (" min/avg/max".toList ++ ("/mdev".toList ++ " = ".toList)) := by
      decide
    rw [label, List.append_assoc, literal?_append, Option.some_or]
    simp only [if_true, List.append_assoc]
  | false =>
    have label : timingLabel false = "round-trip".toList ++ (" min/avg/max".toList ++ " = ".toList) := by
      decide
    have apart : literal? "rtt".toList (timingLabel false ++ cs) = none := rfl
    rw [apart, Option.none_or, label, List.append_assoc, literal?_append]
    rfl

namespace Timing

/-- A deviation behind a slash, if there is one. -/
def deviation (t : Timing) : List Char := (t.mdev.map fun d => ['/'] ++ d.chars).getD []

def chars (t : Timing) : List Char :=
  timingLabel t.mdev.isSome ++ (t.min.chars ++ (['/'] ++ (t.avg.chars ++ (['/'] ++ (t.max.chars ++
    (t.deviation ++ " ms".toList))))))

/-- The fields of the line as they are printed. -/
def fields (t : Timing) : RoundTripFields :=
  ⟨t.min.chars, t.avg.chars, t.max.chars, t.mdev.map (·.chars)⟩

def value (t : Timing) : RoundTrip := ⟨t.min.value, t.avg.value, t.max.value, t.mdev.map (·.value)⟩

theorem roundTripFields?_chars (t : Timing) (rest : List Char) :
    roundTripFields? (t.chars ++ rest) = some t.fields := by
  -- A time in front of a slash, and the last one in front of its unit.
  have slashed (d : DecimalText) (cs : List Char) := d.run (head_stops (c := '/') rfl cs)
  have last (d : DecimalText) := d.run (head_stops (c := ' ') rfl ("ms".toList ++ rest))
  have named (cs : List Char) : skipping "/mdev".toList
      ((if t.mdev.isSome then "/mdev".toList else []) ++ (" = ".toList ++ cs)) = " = ".toList ++ cs := by
    cases t.mdev with
    | some => exact skipping_append _ _
    | none => exact skipping_apart fun same => absurd (Option.some.inj same) (by decide)
  have highest : run? isFraction (t.max.chars ++ (t.deviation ++ (" ms".toList ++ rest))) =
      some (t.max.chars, t.deviation ++ (" ms".toList ++ rest)) := by
    rw [deviation]
    cases t.mdev with
    | some => exact slashed t.max _
    | none => exact last t.max
  have deviating : (literal? ['/'] (t.deviation ++ (" ms".toList ++ rest))).bind (run? isFraction) =
      t.mdev.map fun d => (d.chars, " ms".toList ++ rest) := by
    rw [deviation]
    cases t.mdev with
    | some d => exact Option.bind_eq_some_iff.mpr ⟨_, literal?_append ['/'] _, last d⟩
    | none => rfl
  simp only [chars, roundTripFields?, List.append_assoc]
  refine Option.bind_eq_some_iff.mpr ⟨_, timingLabel_led _ _, ?_⟩
  refine Option.bind_eq_some_iff.mpr ⟨_, literal?_append _ _, ?_⟩
  rw [named]
  refine Option.bind_eq_some_iff.mpr ⟨_, literal?_append _ _, ?_⟩
  refine Option.bind_eq_some_iff.mpr ⟨_, slashed t.min _, ?_⟩
  refine Option.bind_eq_some_iff.mpr ⟨_, literal?_append ['/'] _, ?_⟩
  refine Option.bind_eq_some_iff.mpr ⟨_, slashed t.avg _, ?_⟩
  refine Option.bind_eq_some_iff.mpr ⟨_, literal?_append ['/'] _, ?_⟩
  refine Option.bind_eq_some_iff.mpr ⟨_, highest, ?_⟩
  simp only [deviating]
  obtain ⟨min, avg, max, mdev⟩ := t
  cases mdev with
  | none | some d => exact Option.bind_eq_some_iff.mpr ⟨_, literal?_append " ms".toList rest, rfl⟩

theorem read_fields (t : Timing) : t.fields.read = .ok t.value := by
  obtain ⟨min, avg, max, mdev⟩ := t
  simp only [fields, RoundTripFields.read, DecimalText.fraction_eq]
  cases mdev with
  | none => rfl
  | some mdev =>
    simp only [Option.map_some, Option.mapM_some, DecimalText.fraction_eq]
    rfl

end Timing

/-- A line of round-trip times begins with a piece that names them. -/
theorem roundTripFields?_announces : Announces "min/avg/max".toList roundTripFields? := by
  intro cs f found
  obtain ⟨behind, led, found⟩ := Option.bind_eq_some_iff.mp found
  obtain ⟨behind', named, -⟩ := Option.bind_eq_some_iff.mp found
  obtain rfl := eq_append_of_literal? named
  have piece (lead : List Char) (single : '\n' ∉ lead)
      (led : cs = lead ++ (" min/avg/max".toList ++ behind')) :
      ∃ piece, piece <+: cs ∧ "min/avg/max".toList <:+: piece ∧ '\n' ∉ piece := by
    refine ⟨lead ++ " min/avg/max".toList, ⟨behind', led ▸ List.append_assoc ..⟩, ?_, ?_⟩
    · exact ⟨lead ++ [' '], [], by simp⟩
    · rw [List.mem_append, not_or]
      exact ⟨single, by decide⟩
  obtain found | ⟨-, found⟩ := Option.or_eq_some_iff.mp led
  · exact piece _ (by decide) (eq_append_of_literal? found)
  · exact piece _ (by decide) (eq_append_of_literal? found)

/-! ### Printouts -/

/-- What `ping` prints: text that announces no packet counts, a packet summary with anything behind it,
and at most one line of round-trip times, again with anything behind it. -/
structure Printout where
  before : List Char
  summary : PacketLine
  tail : List Char
  timed : Option (Timing × List Char)
  unannounced : ¬ "packets transmitted".toList <:+: before
  ended : ∀ c ∈ before.getLast?, c = '\n'
  untimed : ¬ "min/avg/max".toList <:+: before ++ (summary.chars ++ tail)

namespace Printout

def chars (p : Printout) : List Char :=
  p.before ++ (p.summary.chars ++ (p.tail ++
    (p.timed.map fun (timing, after) => '\n' :: (timing.chars ++ after)).getD []))

def text (p : Printout) : String := String.ofList p.chars

def statistics (p : Printout) : Statistics where
  transmitted := p.summary.transmitted.value
  received := p.summary.received.value
  duplicates := (p.summary.duplicates.map (·.value)).getD 0
  lossPercent := p.summary.loss.value
  roundTrip := p.timed.map (·.1.value)

theorem packets_found (p : Printout) : firstMatch? packetFields? p.chars = some p.summary.fields := by
  rw [chars, packetFields?_announces.pass p.unannounced p.ended]
  exact firstMatch?_here (p.summary.packetFields?_chars _)

theorem times_found (p : Printout) :
    firstMatch? roundTripFields? p.chars = p.timed.map (·.1.fields) := by
  obtain ⟨before, summary, tail, timed, -, -, untimed⟩ := p
  cases timed with
  | none =>
    simp only [chars, Option.map_none, Option.getD_none, List.append_nil]
    exact roundTripFields?_announces.none_of_absent untimed
  | some timed =>
    obtain ⟨timing, after⟩ := timed
    -- The break in front of the line belongs to the lines that are passed over.
    have untimed : ¬ "min/avg/max".toList <:+: before ++ (summary.chars ++ tail) ++ ['\n'] := by
      rw [List.infix_concat_iff, List.suffix_concat_iff]
      rintro ((empty | ⟨front, same, -⟩) | inside)
      · exact absurd empty (by decide)
      · exact absurd (same ▸ List.mem_concat_self : '\n' ∈ "min/avg/max".toList) (by decide)
      · exact untimed inside
    have shape : before ++ (summary.chars ++ (tail ++ '\n' :: (timing.chars ++ after))) =
        before ++ (summary.chars ++ tail) ++ ['\n'] ++ (timing.chars ++ after) := by
      simp
    simp only [chars, Option.map_some, Option.getD_some]
    rw [shape, roundTripFields?_announces.pass untimed (by simp)]
    exact firstMatch?_here (timing.roundTripFields?_chars after)

/-- Every printout gives its statistics, as long as no count is too large; the first one that is too
large is named. -/
theorem parse_text (p : Printout) :
    Statistics.parse p.text =
      match p.summary.excess? with
      | none => .ok p.statistics
      | some (field, n) => .error (invalidField field n.digits) := by
  have timed : (p.timed.map (·.1.fields)).mapM RoundTripFields.read =
      (.ok (p.timed.map (·.1.value)) : Result (Option RoundTrip)) := by
    cases p.timed with
    | none => rfl
    | some timed => rw [Option.map_some, Option.mapM_some, timed.1.read_fields]; rfl
  rw [Statistics.parse, text, String.toList_ofList, p.packets_found, p.times_found]
  simp only [PacketLine.fields, Numeral.count_eq, DecimalText.fraction_eq, timed, PacketLine.excess?]
  by_cases sent : 2 ^ 32 ≤ p.summary.transmitted.value
  · rw [if_pos sent, List.cons_append, List.find?_cons_of_pos (by simpa using sent)]
    rfl
  rw [if_neg sent, List.cons_append, List.find?_cons_of_neg (by simpa using sent)]
  by_cases back : 2 ^ 32 ≤ p.summary.received.value
  · rw [if_pos back, List.cons_append, List.find?_cons_of_pos (by simpa using back)]
    rfl
  rw [if_neg back, List.cons_append, List.find?_cons_of_neg (by simpa using back)]
  cases again : p.summary.duplicates with
  | none =>
    simp only [statistics, again]
    rfl
  | some d =>
    simp only [Option.map_some, Option.mapM_some, Numeral.count_eq, statistics, again]
    by_cases more : 2 ^ 32 ≤ d.value
    · rw [if_pos more, Option.toList_some, List.nil_append, List.find?_cons_of_pos (by simpa using more)]
      rfl
    · rw [if_neg more, Option.toList_some, List.nil_append, List.find?_cons_of_neg (by simpa using more)]
      rfl

/-- A run with a duplicate and round-trip times, and more text behind them. -/
def typicalRun : Printout where
  before := "PING 10.0.0.1 56(84) bytes of data.\n\n".toList
  summary :=
    { transmitted := ⟨['5'], by decide, by decide⟩
      received := ⟨['0', '5'], by decide, by decide⟩
      duplicates := some ⟨['1'], by decide, by decide⟩
      loss := { whole := ['0'], nonempty := by decide, ascii := by decide } }
  tail := ", time 4005ms".toList
  timed := some
    ({ min := { whole := ['0'], places := some ['0', '4'], nonempty := by decide, ascii := by decide }
       avg := { whole := [], places := some ['5'], nonempty := by decide, ascii := by decide }
       max := { whole := ['1'], places := some [], nonempty := by decide, ascii := by decide }
       mdev := some { whole := ['2'], nonempty := by decide, ascii := by decide } },
     "\nrtt min/avg/max\n".toList)
  unannounced := by decide +kernel
  ended _ last := (Option.some.inj last).symm
  untimed := by decide +kernel

theorem parse_text_typical :
    Statistics.parse "PING 10.0.0.1 56(84) bytes of data.

5 packets transmitted, 05 received, +1 duplicates, 0% packet loss, time 4005ms
rtt min/avg/max/mdev = 0.04/.5/1./2 ms
rtt min/avg/max
" = .ok {
      transmitted := 5
      received := 5
      duplicates := 1
      lossPercent := .ofRatio 0 1
      roundTrip := some {
        min := .ofRatio 4 100
        avg := .ofRatio 5 10
        max := .ofRatio 1 1
        mdev := some (.ofRatio 2 1) } } := by
  have text : typicalRun.text = "PING 10.0.0.1 56(84) bytes of data.

5 packets transmitted, 05 received, +1 duplicates, 0% packet loss, time 4005ms
rtt min/avg/max/mdev = 0.04/.5/1./2 ms
rtt min/avg/max
" := by decide +kernel
  have read : Statistics.parse typicalRun.text = .ok typicalRun.statistics := parse_text typicalRun
  rw [text] at read
  exact read

end Printout
end IPsecControl.Probe
