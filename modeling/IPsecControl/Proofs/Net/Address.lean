import IPsecControl.Net.Address
import IPsecControl.Proofs.Text.Numeral
import Mathlib.Data.List.TakeWhile

/-! Addresses and their text. Every address is read back from its text, whether it is in dotted form, in
groups, in groups with a run of zeros left out, or a mapped IPv4 address; so no two addresses share a
text. -/
namespace IPsecControl.Net.Address
open Text

def Undigited (base : Nat) (rest : List Char) : Prop := ∀ c ∈ rest.head?, digitValue? base c = none

theorem undigited_nil (base : Nat) : Undigited base [] := by simp [Undigited]

theorem undigited_cons {base : Nat} {c : Char} (other : digitValue? base c = none) (rest : List Char) :
    Undigited base (c :: rest) := by
  simpa [Undigited] using other

theorem Undigited.takeWhile {base : Nat} {rest : List Char} (ends : Undigited base rest) :
    rest.takeWhile (fun c => (digitValue? base c).isSome) = [] := by
  cases rest with
  | nil => rfl
  | cons c rest => exact List.takeWhile_cons_of_neg (by simp [ends c rfl])

/-! ### Numbers -/

/-- A numeral is read up to its end, if it is not too long. -/
theorem readNumber?_digitsOnto {b n most : Nat} (lettered : b + 2 ≤ 36) (positive : 0 < most)
    (fits : n < (b + 2) ^ most) (leadingZero : Bool) {rest : List Char}
    (ends : Undigited (b + 2) rest) :
    readNumber? (b + 2) most leadingZero (digitsOnto b n [] ++ rest) = some (n, rest) := by
  have short := digitsOnto_length_le positive fits
  have front : (digitsOnto b n [] ++ rest).takeWhile (fun c => (digitValue? (b + 2) c).isSome) =
      digitsOnto b n [] := by
    rw [List.takeWhile_append_of_pos (digitsOnto_digits lettered n), ends.takeWhile, List.append_nil]
  have filled : (digitsOnto b n []).isEmpty = false := by
    simpa using digitsOnto_ne_nil n
  -- A zero in front is the only digit, so it is never one too many.
  have alone : (!leadingZero && (digitsOnto b n [] ++ rest).head? == some '0' &&
      decide (1 < (digitsOnto b n []).length)) = false := by
    cases shape : digitsOnto b n [] with
    | nil => exact absurd shape (digitsOnto_ne_nil n)
    | cons c ds =>
      by_cases zero : c = '0'
      · subst zero
        have value : n = 0 := digitsOnto_head lettered (by rw [shape]; rfl)
        rw [value, digitsOnto_small (by omega)] at shape
        obtain ⟨-, rfl⟩ := List.cons.inj shape
        simp
      · simp [zero]
  unfold readNumber?
  simp only [front, filled, alone, decide_eq_false (Nat.not_lt.mpr short), Bool.or_self,
    Bool.false_eq_true, if_false]
  rw [digitsOnto_value lettered, List.drop_left]

theorem readNumber?_undigited {base : Nat} (most : Nat) (leadingZero : Bool) {cs : List Char}
    (other : Undigited base cs) : readNumber? base most leadingZero cs = none := by
  unfold readNumber?
  simp only [other.takeWhile, List.isEmpty_nil, Bool.true_or, if_true]

theorem readNumber?_rest {base most n : Nat} {leadingZero : Bool} {cs rest : List Char}
    (read : readNumber? base most leadingZero cs = some (n, rest)) : rest <:+ cs := by
  unfold readNumber? at read
  simp only at read
  split at read
  · contradiction
  · cases read
    exact List.drop_suffix _ _

theorem skip?_cons (c : Char) (rest : List Char) : skip? c (c :: rest) = some rest := if_pos rfl

theorem skip?_other {c d : Char} (other : d ≠ c) (rest : List Char) : skip? c (d :: rest) = none :=
  if_neg other

/-! ### Dotted form -/

theorem readOctet?_digits (a : UInt8) {rest : List Char} (ends : Undigited 10 rest) :
    readOctet? (digits a.toNat ++ rest) = some (a, rest) := by
  have small := a.toNat_lt
  have fits : a.toNat < (8 + 2) ^ 3 := by omega
  have read := readNumber?_digitsOnto (by decide) (by decide) fits false ends
  rw [readOctet?, digits, read]
  simp only [if_pos small, UInt8.ofNat_toNat]

theorem readOctet?_undigited {cs : List Char} (other : Undigited 10 cs) : readOctet? cs = none := by
  rw [readOctet?, readNumber?_undigited 3 false other]

theorem readOctet?_rest {a : UInt8} {cs rest : List Char} (read : readOctet? cs = some (a, rest)) :
    rest <:+ cs := by
  unfold readOctet? at read
  split at read
  next n rest number =>
    split at read
    · cases read
      exact readNumber?_rest number
    · contradiction
  next => contradiction

theorem dot_undigited (rest : List Char) : Undigited 10 ('.' :: rest) :=
  undigited_cons (by decide) rest

theorem readDotted?_dotted (a b c d : UInt8) {rest : List Char} (ends : Undigited 10 rest) :
    readDotted? (dotted a b c d ++ rest) = some ((a, b, c, d), rest) := by
  have shape : dotted a b c d ++ rest = digits a.toNat ++ '.' :: (digits b.toNat ++ '.' ::
      (digits c.toNat ++ '.' :: (digits d.toNat ++ rest))) := by
    simp [dotted]
  rw [shape, readDotted?]
  simp only [readOctet?_digits _ (dot_undigited _), readOctet?_digits _ ends, skip?_cons,
    Option.bind_eq_bind, Option.bind_some]
  rfl

theorem readDotted?_undigited {cs : List Char} (other : Undigited 10 cs) : readDotted? cs = none := by
  rw [readDotted?, readOctet?_undigited other]
  rfl

theorem readDotted?_undotted {cs : List Char} (undotted : '.' ∉ cs) : readDotted? cs = none := by
  rw [readDotted?]
  cases read : readOctet? cs with
  | none => rfl
  | some front =>
    obtain ⟨a, rest⟩ := front
    have undotted : '.' ∉ rest := fun dot => undotted ((readOctet?_rest read).mem dot)
    cases rest with
    | nil => rfl
    | cons c rest =>
      have other : c ≠ '.' := fun same => undotted (same ▸ List.mem_cons_self)
      simp only [Option.bind_eq_bind, Option.bind_some, skip?_other other]
      rfl

/-! ### Groups -/

/-- Groups with a colon in front of each. -/
def laterGroups (groups : List UInt16) : List Char := groups.flatMap fun g => ':' :: hexDigits g.toNat

theorem colonSeparated_cons (g : UInt16) (groups : List UInt16) :
    colonSeparated (g :: groups) = hexDigits g.toNat ++ laterGroups groups := by
  induction groups generalizing g with
  | nil => simp [colonSeparated, laterGroups]
  | cons h groups ih =>
    rw [colonSeparated, ih]
    · simp [laterGroups]
    · exact List.cons_ne_nil _ _

theorem hexDigits_undotted (n : Nat) : '.' ∉ hexDigits n := by
  intro dot
  have digit := digitsOnto_digits (b := 14) (by decide) n '.' dot
  exact absurd digit (by decide)

theorem laterGroups_undotted (groups : List UInt16) : '.' ∉ laterGroups groups := by
  simp [laterGroups, hexDigits_undotted]

theorem colonSeparated_undotted (groups : List UInt16) : '.' ∉ colonSeparated groups := by
  cases groups with
  | nil => simp [colonSeparated]
  | cons g groups =>
    rw [colonSeparated_cons, List.mem_append, not_or]
    exact ⟨hexDigits_undotted _, laterGroups_undotted _⟩

theorem readDotted?_groups (g : UInt16) (groups : List UInt16) {rest : List Char}
    (undotted : '.' ∉ rest) :
    readDotted? (hexDigits g.toNat ++ (laterGroups groups ++ rest)) = none := by
  refine readDotted?_undotted ?_
  simp [hexDigits_undotted, laterGroups_undotted, undotted]

theorem readNumber?_hexDigits (g : UInt16) {rest : List Char} (ends : Undigited 16 rest) :
    readNumber? 16 4 true (hexDigits g.toNat ++ rest) = some (g.toNat, rest) := by
  have small := g.toNat_lt
  have fits : g.toNat < (14 + 2) ^ 4 := by omega
  exact readNumber?_digitsOnto (by decide) (by decide) fits true ends

/-- What groups end at: the end of the text, or a run of zeros that is left out. -/
def Ends (rest : List Char) : Prop := rest = [] ∨ ∃ more, rest = ':' :: ':' :: more

theorem colon_undigited {base : Nat} (rest : List Char) :
    Undigited base (':' :: rest) := by
  refine undigited_cons ?_ rest
  simp [digitValue?]

theorem Ends.undigited {rest : List Char} (ends : Ends rest) : Undigited 16 rest := by
  obtain rfl | ⟨more, rfl⟩ := ends
  · exact undigited_nil 16
  · exact colon_undigited _

theorem later_undigited (groups : List UInt16) {rest : List Char} (ends : Ends rest) :
    Undigited 16 (laterGroups groups ++ rest) := by
  cases groups with
  | nil => exact ends.undigited
  | cons g groups => exact colon_undigited _

/-- Where groups end, none is read. -/
theorem readGroups_ends (first : Bool) (room : Nat) {rest : List Char} (ends : Ends rest) :
    readGroups first room rest = ([], false, rest) := by
  have unread : ∀ front, separator? first rest = some front →
      readDotted? front = none ∧ readNumber? 16 4 true front = none := by
    intro front shown
    obtain rfl | ⟨more, rfl⟩ := ends
    · cases first <;> cases shown
      exact ⟨rfl, rfl⟩
    · have front_eq : front = ':' :: more ∨ front = ':' :: ':' :: more := by
        cases first <;> cases shown
        · exact .inl rfl
        · exact .inr rfl
      obtain rfl | rfl := front_eq
      all_goals
        exact ⟨readDotted?_undigited (colon_undigited _),
          readNumber?_undigited 4 true (colon_undigited _)⟩
  cases room with
  | zero => rfl
  | succ room =>
    rw [readGroups]
    cases shown : separator? first rest with
    | none => simp
    | some front =>
      obtain ⟨plain, unnumbered⟩ := unread front shown
      simp [plain, unnumbered]

/-- A group that is next is read, if what follows is no dotted form. -/
theorem readGroups_group {first : Bool} {room : Nat} {cs rest : List Char} (g : UInt16)
    (shown : separator? first cs = some (hexDigits g.toNat ++ rest))
    (plain : readDotted? (hexDigits g.toNat ++ rest) = none) (ends : Undigited 16 rest) :
    readGroups first (room + 1) cs =
      (g :: (readGroups false room rest).1, (readGroups false room rest).2) := by
  rw [readGroups, shown]
  simp only [Option.bind_some, plain, ite_self, readNumber?_hexDigits g ends, UInt16.ofNat_toNat]

theorem readGroups_later (groups : List UInt16) {room : Nat} (enough : groups.length ≤ room)
    {rest : List Char} (undotted : '.' ∉ rest) (ends : Ends rest) :
    readGroups false room (laterGroups groups ++ rest) = (groups, false, rest) := by
  induction groups generalizing room with
  | nil => exact readGroups_ends false room ends
  | cons g groups ih =>
    obtain ⟨room, rfl⟩ := Nat.exists_eq_add_of_le' (Nat.le_trans (Nat.succ_pos _) enough)
    have shape : laterGroups (g :: groups) ++ rest =
        ':' :: (hexDigits g.toNat ++ (laterGroups groups ++ rest)) := by
      simp [laterGroups]
    have plain := readDotted?_groups g groups undotted
    have shown : separator? false (':' :: (hexDigits g.toNat ++ (laterGroups groups ++ rest))) =
        some (hexDigits g.toNat ++ (laterGroups groups ++ rest)) := skip?_cons ':' _
    rw [shape, readGroups_group g shown plain (later_undigited groups ends),
      ih (Nat.le_of_succ_le_succ enough)]

/-- Groups with colons between them are read up to their end. -/
theorem readGroups_colonSeparated (groups : List UInt16) {room : Nat} (enough : groups.length ≤ room)
    {rest : List Char} (undotted : '.' ∉ rest) (ends : Ends rest) :
    readGroups true room (colonSeparated groups ++ rest) = (groups, false, rest) := by
  cases groups with
  | nil => exact readGroups_ends true room ends
  | cons g groups =>
    obtain ⟨room, rfl⟩ := Nat.exists_eq_add_of_le' (Nat.le_trans (Nat.succ_pos _) enough)
    have plain := readDotted?_groups g groups undotted
    rw [colonSeparated_cons, List.append_assoc,
      readGroups_group g rfl plain (later_undigited groups ends),
      readGroups_later groups (Nat.le_of_succ_le_succ enough) undotted ends]

/-! ### Runs of zeros -/

theorem takeWhile_zeros (groups : List UInt16) :
    groups.takeWhile (· == 0) = List.replicate (zeroRun groups) 0 := by
  rw [List.eq_replicate_iff]
  exact ⟨rfl, fun g member => by simpa using List.mem_takeWhile_imp member⟩

/-- The longest run of zeros stands where it is said to stand. -/
theorem longestZeroRun_spec {index start length : Nat} {groups : List UInt16}
    (longest : longestZeroRun index groups = (start, length)) (positive : 0 < length) :
    ∃ before after, groups = before ++ List.replicate length 0 ++ after ∧
      start = index + before.length := by
  induction groups generalizing index with
  | nil =>
    cases longest
    contradiction
  | cons g groups ih =>
    rw [longestZeroRun] at longest
    split at longest
    next here =>
      obtain ⟨rfl, rfl⟩ := Prod.mk.inj longest
      refine ⟨[], (g :: groups).dropWhile (· == 0), ?_, rfl⟩
      rw [List.nil_append, ← takeWhile_zeros, List.takeWhile_append_dropWhile]
    next =>
      obtain ⟨before, after, rfl, rfl⟩ := ih longest
      refine ⟨g :: before, after, rfl, ?_⟩
      rw [List.length_cons]
      omega

theorem join?_eq {head tail : List UInt16} {groups : Vector UInt16 8}
    (whole : head ++ List.replicate (8 - head.length - tail.length) 0 ++ tail = groups.toList) :
    join? head tail = some groups := by
  have eight : (head ++ List.replicate (8 - head.length - tail.length) 0 ++ tail).length = 8 := by
    rw [whole, Vector.length_toList]
  rw [join?, dif_pos eight]
  congr 1
  rw [← Vector.toList_inj]
  exact whole

/-! ### Whole addresses -/

theorem readV6?_whole (groups : Vector UInt16 8) :
    readV6? (colonSeparated groups.toList) = some (groups, []) := by
  have read : readGroups true 8 (colonSeparated groups.toList ++ []) = (groups.toList, false, []) :=
    readGroups_colonSeparated groups.toList (by simp) (by simp) (.inl rfl)
  rw [List.append_nil] at read
  have whole : join? groups.toList [] = some groups := join?_eq (by simp)
  rw [readV6?, read]
  simp [whole]

/-- A text with a run of zeros left out, from how the groups behind it are read. -/
theorem readV6?_around {head tail : List UInt16} {back : List Char} {closed : Bool}
    {groups : Vector UInt16 8}
    (front : readGroups true 8 (colonSeparated head ++ ':' :: ':' :: back) =
      (head, false, ':' :: ':' :: back))
    (behind : readGroups true (7 - head.length) back = (tail, closed, []))
    (short : head.length < 8)
    (whole : head ++ List.replicate (8 - head.length - tail.length) 0 ++ tail = groups.toList) :
    readV6? (colonSeparated head ++ ':' :: ':' :: back) = some (groups, []) := by
  rw [readV6?, front]
  simp only [Nat.ne_of_lt short, if_false, Bool.false_eq_true, skip?_cons, Option.bind_eq_bind,
    Option.bind_some, behind, join?_eq whole]
  rfl

theorem readV6?_shortened {head tail : List UInt16} {groups : Vector UInt16 8}
    (short : head.length + tail.length < 8)
    (whole : head ++ List.replicate (8 - head.length - tail.length) 0 ++ tail = groups.toList) :
    readV6? (colonSeparated head ++ ':' :: ':' :: colonSeparated tail) = some (groups, []) := by
  have undotted : '.' ∉ ':' :: ':' :: colonSeparated tail := by
    simp [colonSeparated_undotted]
  have front : readGroups true 8 (colonSeparated head ++ ':' :: ':' :: colonSeparated tail) =
      (head, false, ':' :: ':' :: colonSeparated tail) :=
    readGroups_colonSeparated head (by omega) undotted (.inr ⟨_, rfl⟩)
  have behind : readGroups true (7 - head.length) (colonSeparated tail ++ []) = (tail, false, []) :=
    readGroups_colonSeparated tail (by omega) (by simp) (.inl rfl)
  rw [List.append_nil] at behind
  exact readV6?_around front behind (by omega) whole

theorem high_low (g : UInt16) : UInt16.ofNat ((high g).toNat * 256 + (low g).toNat) = g := by
  have small := g.toNat_lt
  have upper : (high g).toNat = g.toNat / 256 :=
    UInt8.toNat_ofNat_of_lt' (Nat.div_lt_of_lt_mul small)
  have lower : (low g).toNat = g.toNat % 256 :=
    UInt8.toNat_ofNat_of_lt' (Nat.mod_lt _ (by decide))
  rw [upper, lower, Nat.div_add_mod', UInt16.ofNat_toNat]

/-- The mapped form is the only one with dots in it. -/
def mapped (g h : UInt16) : List Char :=
  [':', ':', 'f', 'f', 'f', 'f', ':'] ++ dotted (high g) (low g) (high h) (low h)

theorem readV6?_mapped {g h : UInt16} {groups : Vector UInt16 8}
    (form : groups.toList = [0, 0, 0, 0, 0, 0xFFFF, g, h]) :
    readV6? (mapped g h) = some (groups, []) := by
  let last := dotted (high g) (low g) (high h) (low h)
  have ends := undigited_nil 10
  have pair : readGroups false 6 (':' :: last) = ([g, h], true, []) := by
    have read : (separator? false (':' :: last)).bind readDotted? =
        some ((high g, low g, high h, low h), []) := by
      have plain := readDotted?_dotted (high g) (low g) (high h) (low h) ends
      rw [List.append_nil] at plain
      exact plain
    rw [readGroups, if_pos (by decide), read]
    simp only [high_low]
  have group : readGroups true 7 (['f', 'f', 'f', 'f'] ++ ':' :: last) =
      ([0xFFFF, g, h], true, []) := by
    have letters : hexDigits (0xFFFF : UInt16).toNat = ['f', 'f', 'f', 'f'] := by
      simp [hexDigits, digitsOnto, digitChar]
    have plain : readDotted? (['f', 'f', 'f', 'f'] ++ ':' :: last) = none :=
      readDotted?_undigited (undigited_cons (by decide) _)
    rw [← letters] at plain ⊢
    rw [readGroups_group 0xFFFF rfl plain (colon_undigited _), pair]
  have front : readGroups true 8 (colonSeparated [] ++ ':' :: ':' :: (['f', 'f', 'f', 'f'] ++ ':' :: last)) =
      ([], false, ':' :: ':' :: (['f', 'f', 'f', 'f'] ++ ':' :: last)) :=
    readGroups_ends true 8 (.inr ⟨_, rfl⟩)
  exact readV6?_around front group (by decide) form.symm

/-- How groups are written: mapped, around a run of zeros, or all of them. -/
theorem groupsText_cases (groups : Vector UInt16 8) :
    (∃ g h, groups.toList = [0, 0, 0, 0, 0, 0xFFFF, g, h] ∧
      groupsText groups.toList = mapped g h) ∨
    (∃ head tail, head.length + tail.length < 8 ∧
      head ++ List.replicate (8 - head.length - tail.length) 0 ++ tail = groups.toList ∧
      groupsText groups.toList = colonSeparated head ++ ':' :: ':' :: colonSeparated tail) ∨
    groupsText groups.toList = colonSeparated groups.toList := by
  unfold groupsText
  split
  next g h form => exact .inl ⟨g, h, form, rfl⟩
  next =>
    right
    simp only
    split
    next long =>
      left
      have longest : longestZeroRun 0 groups.toList = ((longestZeroRun 0 groups.toList).1,
          (longestZeroRun 0 groups.toList).2) := rfl
      obtain ⟨before, after, shape, start⟩ := longestZeroRun_spec longest (by omega)
      generalize (longestZeroRun 0 groups.toList).1 = first at *
      generalize (longestZeroRun 0 groups.toList).2 = count at *
      have eight : groups.toList.length = 8 := groups.length_toList
      rw [Nat.zero_add] at start
      subst start
      rw [shape] at eight ⊢
      simp only [List.length_append, List.length_replicate] at eight
      refine ⟨before, after, by omega, ?_, ?_⟩
      · rw [show 8 - before.length - after.length = count by omega]
      · rw [List.append_assoc, List.take_left, ← List.append_assoc, List.drop_left' (by simp)]
    next => exact .inr rfl

theorem readV6?_groupsText (groups : Vector UInt16 8) :
    readV6? (groupsText groups.toList) = some (groups, []) := by
  obtain ⟨g, h, form, text⟩ | ⟨head, tail, short, whole, text⟩ | text := groupsText_cases groups
  all_goals rw [text]
  · exact readV6?_mapped form
  · exact readV6?_shortened short whole
  · exact readV6?_whole groups

theorem readDotted?_groupsText (groups : Vector UInt16 8) :
    readDotted? (groupsText groups.toList) = none := by
  obtain ⟨g, h, -, text⟩ | ⟨head, tail, -, -, text⟩ | text := groupsText_cases groups
  all_goals rw [text]
  · exact readDotted?_undigited (colon_undigited _)
  · exact readDotted?_undotted (by simp [colonSeparated_undotted])
  · exact readDotted?_undotted (colonSeparated_undotted _)

/-- Every address is read back from its text. -/
theorem parse?_render (a : Address) : parse? a.render = some a := by
  cases a with
  | v4 a b c d =>
    have read := readDotted?_dotted a b c d (undigited_nil 10)
    rw [List.append_nil] at read
    rw [parse?, render, read]
  | v6 groups =>
    rw [parse?, render, readDotted?_groupsText, readV6?_groupsText]
    rfl

example : parse? "2001:db8::1".toList = some (.v6 #v[0x2001, 0xDB8, 0, 0, 0, 0, 0, 1]) := by decide

example : parse? "::ffff:10.0.0.1".toList = some (.v6 #v[0, 0, 0, 0, 0, 0xFFFF, 0x0A00, 1]) := by decide

/-- Addresses with the same text are the same. -/
theorem text_injective : Function.Injective text := by
  intro a b same
  have rendered : a.render = b.render := String.ofList_injective same
  have read := parse?_render a
  rw [rendered, parse?_render b] at read
  exact (Option.some.inj read).symm

/-! ### Lengths -/

theorem digits_length_le (a : UInt8) : (digits a.toNat).length ≤ 3 := by
  have small := a.toNat_lt
  exact digitsOnto_length_le (by decide) (by omega)

theorem hexDigits_length_le (g : UInt16) : (hexDigits g.toNat).length ≤ 4 := by
  have small := g.toNat_lt
  exact digitsOnto_length_le (by decide) (by omega)

theorem dotted_length_le (a b c d : UInt8) : (dotted a b c d).length ≤ 15 := by
  have first := digits_length_le a
  have second := digits_length_le b
  have third := digits_length_le c
  have fourth := digits_length_le d
  simp only [dotted, List.length_append, List.length_cons]
  omega

theorem laterGroups_length_le (groups : List UInt16) :
    (laterGroups groups).length ≤ 5 * groups.length := by
  induction groups with
  | nil => exact Nat.le_refl 0
  | cons g groups ih =>
    have group := hexDigits_length_le g
    simp only [laterGroups, List.flatMap_cons, List.length_append, List.length_cons] at ih ⊢
    omega

theorem colonSeparated_length_le (groups : List UInt16) :
    (colonSeparated groups).length ≤ 5 * groups.length := by
  cases groups with
  | nil => exact Nat.le_refl 0
  | cons g groups =>
    have group := hexDigits_length_le g
    have later := laterGroups_length_le groups
    rw [colonSeparated_cons, List.length_append, List.length_cons]
    omega

/-- No text of an address is longer than forty characters. -/
theorem render_length_le (a : Address) : a.render.length ≤ 40 := by
  cases a with
  | v4 a b c d => exact Nat.le_trans (dotted_length_le a b c d) (by decide)
  | v6 groups =>
    rw [render]
    obtain ⟨g, h, -, text⟩ | ⟨head, tail, short, -, text⟩ | text := groupsText_cases groups
    all_goals rw [text]
    · have last := dotted_length_le (high g) (low g) (high h) (low h)
      simp only [mapped, List.length_append, List.length_cons, List.length_nil]
      omega
    · have front := colonSeparated_length_le head
      have back := colonSeparated_length_le tail
      simp only [List.length_append, List.length_cons]
      omega
    · have all := colonSeparated_length_le groups.toList
      rw [groups.length_toList] at all
      exact all

end IPsecControl.Net.Address
