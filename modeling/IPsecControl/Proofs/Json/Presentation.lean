import IPsecControl.Proofs.Json.Members
import Mathlib.Data.List.Forall2

/-! Records presented in JSON texts. The members of an object come in any order, with members of other
keys between them, and a field with a default may be left out when it holds it. Such an object is read as
the record. An object with a field missing that has no default, or with two members for one field, is not
read at all, and neither is an object with such an object in one of its fields. -/
namespace IPsecControl.Json
open Reader Text

/-- The members of a key. -/
def holding (key : String) (ms : List Member) : List Member := ms.filter fun m => m.name? = some key

/-- The members of all other keys. -/
def besides (key : String) (ms : List Member) : List Member := ms.filter fun m => m.name? ≠ some key

/-! ### Members of one field and members of the others -/

section
variable {A B : Type} {key : String} {read : Reader A}
variable {rest : String → B → Except Cause (Option (Reader B))}

theorem Collects.cons_iff {Found : Type} {member : String → Found → Except Cause (Option (Reader Found))}
    {before after : Found} {m : Member} {ms : List Member} : Collects member before (m :: ms) after ↔
      ∃ found, Takes member before m found ∧ Collects member found ms after := by
  constructor
  · rintro ⟨⟩
    next takes collects => exact ⟨_, takes, collects⟩
  · rintro ⟨found, takes, collects⟩
    exact .next takes collects

/-- A field takes the one member of its key. -/
def Fills (read : Reader A) (before : Option A) (ms : List Member) (after : Option A) : Prop :=
  (ms = [] ∧ after = before) ∨
    ∃ m a, ms = [m] ∧ before = none ∧ after = some a ∧ Gives read m.value.value a

variable {v v' : Option A} {r r' : B} {m : Member}

theorem takes_named (named : m.name? = some key) :
    Takes (fun k (v, r) => Fields.store key read rest k v r) (v, r) m (v', r') ↔
      v = none ∧ r' = r ∧ ∃ a, v' = some a ∧ Gives read m.value.value a := by
  constructor
  · rintro ⟨name, same, goes⟩
    obtain rfl := Option.some.inj (named.symm.trans same)
    simp only [Fields.store, if_true] at goes
    cases v with
    | some _ => obtain ⟨enter, known, -⟩ | ⟨unknown, -⟩ := goes <;> contradiction
    | none =>
      obtain ⟨enter, known, gives⟩ | ⟨unknown, -⟩ := goes
      · cases known
        obtain ⟨a, found, given⟩ := gives.of_map fun _ _ same => Option.some.inj (Prod.mk.inj same).1
        cases found
        exact ⟨rfl, rfl, a, rfl, given⟩
      · cases unknown
  · rintro ⟨rfl, rfl, a, rfl, gives⟩
    exact ⟨key, named, .inl ⟨_, if_pos rfl, gives.map fun a => (some a, r')⟩⟩

theorem takes_other (other : m.name? ≠ some key) :
    Takes (fun k (v, r) => Fields.store key read rest k v r) (v, r) m (v', r') ↔
      v' = v ∧ Takes rest r m r' := by
  have apart : ∀ {name}, m.name? = some name → Fields.store key read rest name v r =
      (rest name r).map fun enter => enter.map fun enter => do return (v, ← enter) := fun named =>
    if_neg fun same : _ = key => other (same ▸ named)
  constructor
  · rintro ⟨name, named, goes⟩
    simp only [apart named] at goes
    cases known : rest name r with
    | error cause =>
      rw [known] at goes
      obtain ⟨enter, known, -⟩ | ⟨unknown, -⟩ := goes <;> contradiction
    | ok enter? =>
      rw [known] at goes
      cases enter? with
      | none =>
        obtain ⟨enter, enters, -⟩ | ⟨-, shape, same⟩ := goes
        · cases enters
        · cases same
          exact ⟨rfl, name, named, .inr ⟨known, shape, rfl⟩⟩
      | some enter =>
        obtain ⟨enter', same, gives⟩ | ⟨unknown, -⟩ := goes
        · cases same
          obtain ⟨a, found, given⟩ := gives.of_map fun _ _ same => (Prod.mk.inj same).2
          cases found
          exact ⟨rfl, name, named, .inl ⟨enter, known, given⟩⟩
        · cases unknown
  · rintro ⟨rfl, name, named, ⟨enter, known, gives⟩ | ⟨unknown, shape, rfl⟩⟩
    · refine ⟨name, named, .inl ⟨_, ?_, gives.map fun r => (v', r)⟩⟩
      simp only [apart named, known]
      rfl
    · refine ⟨name, named, .inr ⟨?_, shape, rfl⟩⟩
      simp only [apart named, unknown]
      rfl

theorem Fills.of_some {a : A} {ms : List Member} {after : Option A} :
    Fills read (some a) ms after ↔ ms = [] ∧ after = some a := by
  simp [Fills]

theorem Fills.cons {before after : Option A} {ms : List Member} : Fills read before (m :: ms) after ↔
    before = none ∧ ∃ a, Gives read m.value.value a ∧ Fills read (some a) ms after := by
  constructor
  · rintro (⟨none, -⟩ | ⟨m, a, one, rfl, rfl, gives⟩)
    · contradiction
    · cases one
      exact ⟨rfl, a, gives, .inl ⟨rfl, rfl⟩⟩
  · rintro ⟨rfl, a, gives, fills⟩
    obtain ⟨rfl, rfl⟩ := Fills.of_some.mp fills
    exact .inr ⟨m, a, rfl, rfl, rfl, gives⟩

/-- The members of a record are taken, if those of the first field are, and those of the others. -/
theorem collects_store_iff {ms : List Member} :
    Collects (fun k (v, r) => Fields.store key read rest k v r) (v, r) ms (v', r') ↔
      Fills read v (holding key ms) v' ∧ Collects rest r (besides key ms) r' := by
  -- A member of the key finds its field empty; then no other one of the key is taken.
  induction ms generalizing v r with
  | nil =>
    constructor
    · rintro ⟨⟩
      exact ⟨.inl ⟨rfl, rfl⟩, .done _⟩
    · rintro ⟨⟨-, rfl⟩ | ⟨m, a, none, -⟩, ⟨⟩⟩
      · exact .done _
      · contradiction
  | cons m ms ih =>
    by_cases named : m.name? = some key
    · have front : holding key (m :: ms) = m :: holding key ms := List.filter_cons_of_pos (by simp [named])
      have others : besides key (m :: ms) = besides key ms := List.filter_cons_of_neg (by simp [named])
      rw [front, others, Fills.cons, Collects.cons_iff]
      constructor
      · rintro ⟨⟨v₁, r₁⟩, takes, collects⟩
        obtain ⟨rfl, rfl, a, rfl, gives⟩ := (takes_named named).mp takes
        obtain ⟨fills, rest⟩ := ih.mp collects
        exact ⟨⟨rfl, a, gives, fills⟩, rest⟩
      · rintro ⟨⟨rfl, a, gives, fills⟩, rest⟩
        exact ⟨(some a, r), (takes_named named).mpr ⟨rfl, rfl, a, rfl, gives⟩, ih.mpr ⟨fills, rest⟩⟩
    · have front : holding key (m :: ms) = holding key ms := List.filter_cons_of_neg (by simp [named])
      have others : besides key (m :: ms) = m :: besides key ms := List.filter_cons_of_pos (by simp [named])
      rw [front, others, Collects.cons_iff, Collects.cons_iff]
      constructor
      · rintro ⟨⟨v₁, r₁⟩, takes, collects⟩
        obtain ⟨rfl, taken⟩ := (takes_other named).mp takes
        obtain ⟨fills, rest⟩ := ih.mp collects
        exact ⟨fills, r₁, taken, rest⟩
      · rintro ⟨fills, r₁, takes, rest⟩
        exact ⟨(v, r₁), (takes_other named).mpr ⟨rfl, takes⟩, ih.mpr ⟨fills, rest⟩⟩

end

/-! ### Records that are shown -/

section
variable {α : Type}

def ShowsText (s : String) (bytes : Bytes) : Prop :=
  ∃ ps, pieceText? ps = some s ∧ bytes = quotedPieces ps

def ShowsList (shown : α → Bytes → Prop) (as : List α) (bytes : Bytes) : Prop :=
  ∃ inside items, bytes = listOf inside items ∧ List.Forall₂ (fun x a => shown a x.value) items as

def ShowsOrNull (shown : α → Bytes → Prop) : Option α → Bytes → Prop
  | none, bytes => bytes = 110 :: nullRest
  | some a, bytes => shown a bytes

/-- The keys of all members are texts, and under those that are not listed there are any values. -/
def Admissible (keys : List String) (ms : List Member) : Prop :=
  ∀ m ∈ ms, ∃ name, m.name? = some name ∧ (name ∈ keys ∨ IsValue m.value.value)

/-- An object with the members that are looked for among others. -/
def ShowsObject (keys : List String) (shown : List Member → Prop) (bytes : Bytes) : Prop :=
  ∃ inside ms, bytes = objectOf inside ms ∧ shown ms ∧ Admissible keys ms

/-- One member of the key shows what is looked for, or there is none and it may be left out. -/
def Holds (key : String) (ms : List Member) (shown : Bytes → Prop) (omitted : Prop) : Prop :=
  (∃ m, holding key ms = [m] ∧ shown m.value.value) ∨ (holding key ms = [] ∧ omitted)

theorem holds_perm {key : String} {ms ms' : List Member} {shown : Bytes → Prop} {omitted : Prop}
    (same : (holding key ms').Perm (holding key ms)) :
    Holds key ms' shown omitted ↔ Holds key ms shown omitted := by
  have one : ∀ m, holding key ms' = [m] ↔ holding key ms = [m] := fun m => by
    rw [← List.perm_singleton, ← List.perm_singleton, same.congr_left]
  have none : holding key ms' = [] ↔ holding key ms = [] := by
    rw [← List.perm_nil, ← List.perm_nil, same.congr_left]
  simp only [Holds, one, none]

end

def Leaf.Shows : (k : Leaf) → k.Value → Bytes → Prop
  | .text _, (s : String) => ShowsText s
  | .texts _, (ss : List String) => ShowsList ShowsText ss

namespace Fields

/-- The members show the values of a record, up to those that are left out. -/
def Shows : (fs : Fields) → fs.Values → List Member → Prop
  | .done, _, _ => True
  | .leaf key kind rest, (v, r), ms =>
    Holds key ms (kind.Shows v) (kind.fallback? = some v) ∧ rest.Shows r ms
  | .record key _ inner rest, (v, r), ms =>
    Holds key ms (ShowsObject inner.keys (inner.Shows v)) False ∧ rest.Shows r ms
  | .recordOrNull key _ inner rest, (v, r), ms =>
    Holds key ms (ShowsOrNull (fun v => ShowsObject inner.keys (inner.Shows v)) v) (v = none) ∧
      rest.Shows r ms
  | .records key _ inner rest, (vs, r), ms =>
    Holds key ms (ShowsList (fun v => ShowsObject inner.keys (inner.Shows v)) vs) False ∧ rest.Shows r ms

/-- Only the members of its keys matter to a record, in any order. -/
theorem shows_perm (fs : Fields) {values : fs.Values} {ms ms' : List Member}
    (same : ∀ key ∈ fs.keys, (holding key ms').Perm (holding key ms)) :
    fs.Shows values ms' ↔ fs.Shows values ms := by
  induction fs with
  | done => exact Iff.rfl
  | leaf key _ rest ih | record key _ _ rest _ ih | recordOrNull key _ _ rest _ ih
  | records key _ _ rest _ ih =>
    obtain ⟨v, r⟩ := values
    obtain ⟨first, later⟩ := List.forall_mem_cons.mp same
    simp only [Shows, holds_perm first, ih later]

end Fields

theorem holding_besides {key other : String} (apart : other ≠ key) (ms : List Member) :
    holding other (besides key ms) = holding other ms := by
  rw [holding, besides, List.filter_filter]
  refine List.filter_congr fun m _ => ?_
  by_cases named : m.name? = some other
  · simp [named, apart]
  · simp [named]

theorem holding_fresh {key : String} {keys : List String} (fresh : key ∉ keys) (ms : List Member) :
    ∀ other ∈ keys, holding other (besides key ms) = holding other ms := by
  refine fun other member => holding_besides ?_ ms
  rintro rfl
  exact fresh member

theorem Admissible.besides {key : String} {keys : List String} {ms : List Member}
    (others : Admissible (key :: keys) ms) : Admissible keys (besides key ms) := by
  intro m member
  obtain ⟨member, apart⟩ := List.mem_filter.mp member
  obtain ⟨name, named, known | shape⟩ := others m member
  · obtain rfl | known := List.mem_cons.mp known
    · exact absurd named (of_decide_eq_true apart)
    · exact ⟨name, named, .inl known⟩
  · exact ⟨name, named, .inr shape⟩

/-- A value that is shown under its key is found, unless it is left out. -/
theorem Holds.collects {A B : Type} {key : String} {ms : List Member} {shown : Bytes → Prop}
    {omitted : Prop} {read : Reader A} {v : A} {rest : String → B → Except Cause (Option (Reader B))}
    {r r' : B}
    (holds : Holds key ms shown omitted) (gives : ∀ bytes, shown bytes → Gives read bytes v)
    (later : Collects rest r (besides key ms) r') :
    ∃ after, Collects (fun k (v, r) => Fields.store key read rest k v r) (none, r) ms (after, r') ∧
      (after = some v ∨ (after = none ∧ omitted)) := by
  obtain ⟨m, one, shown⟩ | ⟨none, omitted⟩ := holds
  · refine ⟨some v, collects_store_iff.mpr ⟨?_, later⟩, .inl rfl⟩
    exact .inr ⟨m, v, one, rfl, rfl, gives _ shown⟩
  · exact ⟨.none, collects_store_iff.mpr ⟨.inl ⟨none, rfl⟩, later⟩, .inr ⟨rfl, omitted⟩⟩

theorem ShowsText.gives {s : String} {bytes : Bytes} (shown : ShowsText s bytes) :
    Begins bytes ∧ Gives readString bytes s := by
  obtain ⟨ps, spelled, rfl⟩ := shown
  exact ⟨⟨quote, _, rfl, by decide, by decide⟩, readString_text spelled⟩

theorem ShowsList.gives {A : Type} {item : Reader A} {shown : A → Bytes → Prop} {as : List A}
    {bytes : Bytes} (list : ShowsList shown as bytes)
    (gives : ∀ a bytes, shown a bytes → Begins bytes ∧ Gives item bytes a) :
    Gives (readList item) bytes as := by
  obtain ⟨inside, items, rfl, each⟩ := list
  exact readList_gives (each.imp fun _ a => gives a _)

theorem Leaf.Shows.gives (k : Leaf) {v : k.Value} {bytes : Bytes} (shown : k.Shows v bytes) :
    Gives k.read bytes v := by
  cases k with
  | text => exact (ShowsText.gives shown).2
  | texts => exact ShowsList.gives shown fun _ _ => ShowsText.gives

theorem ShowsOrNull.gives {A : Type} {read : Reader A} {shown : A → Bytes → Prop} {v : Option A}
    {bytes : Bytes} (value : ShowsOrNull shown v bytes)
    (begins : ∀ a bytes, shown a bytes → ∃ rest, bytes = openBrace :: rest)
    (gives : ∀ a bytes, shown a bytes → Gives read bytes a) : Gives (orNull read) bytes v := by
  cases v with
  | none =>
    obtain rfl := value
    exact orNull_null read
  | some a =>
    obtain ⟨rest, rfl⟩ := begins a _ value
    intro before tail ends
    rw [orNull_apart (by decide) (by decide) before tail]
    exact ((gives a _ value).map some).here ends

theorem ShowsObject.opens {keys : List String} {shown : List Member → Prop} {bytes : Bytes}
    (object : ShowsObject keys shown bytes) : ∃ rest, bytes = openBrace :: rest := by
  obtain ⟨inside, ms, rfl, -⟩ := object
  exact ⟨_, rfl⟩

theorem ShowsObject.begins {keys : List String} {shown : List Member → Prop} {bytes : Bytes}
    (object : ShowsObject keys shown bytes) : Begins bytes := by
  obtain ⟨rest, rfl⟩ := object.opens
  exact ⟨_, rest, rfl, by decide, by decide⟩

namespace Fields

theorem shows_besides (fs : Fields) {values : fs.Values} {key : String} (fresh : key ∉ fs.keys)
    (ms : List Member) : fs.Shows values (besides key ms) ↔ fs.Shows values ms :=
  fs.shows_perm fun other member => .of_eq (holding_fresh fresh ms other member)

theorem collects_done {ms : List Member} (others : Admissible [] ms) :
    Collects done.parts.member () ms () := by
  induction ms with
  | nil => exact .done ()
  | cons m ms ih =>
    obtain ⟨⟨name, named, known | shape⟩, later⟩ := List.forall_mem_cons.mp others
    · contradiction
    · exact .next ⟨name, named, .inr ⟨rfl, shape, rfl⟩⟩ (ih later)

theorem need_some {A : Type} (key : String) (a : A) : need key (some a) = .ok a := rfl

theorem both_ok {A B : Type} {m : Except Cause A} {n : Except Cause B} {a : A} {b : B} (first : m = .ok a)
    (second : n = .ok b) : (do return (← m, ← n)) = (.ok (a, b) : Except Cause (A × B)) := by
  rw [first, second]
  rfl

/-- Members that show values of the record find them all. -/
def Finds (fs : Fields) : Prop :=
  ∀ (values : fs.Values) (ms : List Member), fs.Shows values ms → Admissible fs.keys ms →
    ∃ found, Collects fs.parts.member fs.nothing ms found ∧ fs.complete found = .ok values

theorem Finds.gives {fs : Fields} (finds : fs.Finds) (name : String) {values : fs.Values} {bytes : Bytes}
    (object : ShowsObject fs.keys (fs.Shows values) bytes) : Gives (fs.parts.record name) bytes values := by
  obtain ⟨inside, ms, rfl, shown, others⟩ := object
  obtain ⟨found, collects, complete⟩ := finds values ms shown others
  exact RecordReader.read_gives collects complete

theorem finds_all (fs : Fields) (well : fs.wellFormed = true) : fs.Finds := by
  induction fs with
  | done => exact fun _ ms _ others => ⟨(), collects_done others, rfl⟩
  | leaf key kind rest ih =>
    simp only [wellFormed, Bool.and_eq_true, decide_eq_true_eq] at well
    rintro ⟨v, r⟩ ms ⟨holds, shown⟩ others
    have within := (rest.shows_besides well.1 ms).mpr shown
    obtain ⟨found, collects, complete⟩ := ih well.2 r _ within (Admissible.besides others)
    obtain ⟨after, collects, filled⟩ := holds.collects (fun _ => Leaf.Shows.gives kind) collects
    refine ⟨(after, found), collects, ?_⟩
    have value : need key (after.or kind.fallback?) = .ok v := by
      obtain rfl | ⟨rfl, omitted⟩ := filled
      · rfl
      · rw [Option.none_or, omitted, need_some]
    exact both_ok value complete
  | record key name inner rest ihInner ih =>
    simp only [wellFormed, Bool.and_eq_true, decide_eq_true_eq] at well
    obtain ⟨⟨fresh, wellInner⟩, well⟩ := well
    rintro ⟨v, r⟩ ms ⟨holds, shown⟩ others
    have within := (rest.shows_besides fresh ms).mpr shown
    obtain ⟨found, collects, complete⟩ := ih well r _ within (Admissible.besides others)
    obtain ⟨after, collects, rfl | ⟨-, impossible⟩⟩ :=
      holds.collects (fun _ => (ihInner wellInner).gives name) collects
    · exact ⟨(some v, found), collects, both_ok (need_some key v) complete⟩
    · contradiction
  | recordOrNull key name inner rest ihInner ih =>
    simp only [wellFormed, Bool.and_eq_true, decide_eq_true_eq] at well
    obtain ⟨⟨fresh, wellInner⟩, well⟩ := well
    rintro ⟨v, r⟩ ms ⟨holds, shown⟩ others
    have within := (rest.shows_besides fresh ms).mpr shown
    obtain ⟨found, collects, complete⟩ := ih well r _ within (Admissible.besides others)
    obtain ⟨after, collects, filled⟩ := holds.collects (fun _ value => value.gives
      (fun _ _ => ShowsObject.opens) fun _ _ => (ihInner wellInner).gives name) collects
    have value : after.getD none = v := by
      obtain rfl | ⟨rfl, rfl⟩ := filled <;> rfl
    exact ⟨(after, found), collects, both_ok (congrArg Except.ok value) complete⟩
  | records key name inner rest ihInner ih =>
    simp only [wellFormed, Bool.and_eq_true, decide_eq_true_eq] at well
    obtain ⟨⟨fresh, wellInner⟩, well⟩ := well
    rintro ⟨vs, r⟩ ms ⟨holds, shown⟩ others
    have within := (rest.shows_besides fresh ms).mpr shown
    obtain ⟨found, collects, complete⟩ := ih well r _ within (Admissible.besides others)
    have item := fun v bytes (object : ShowsObject inner.keys (inner.Shows v) bytes) =>
      And.intro object.begins ((ihInner wellInner).gives name object)
    obtain ⟨after, collects, rfl | ⟨-, impossible⟩⟩ :=
      holds.collects (fun _ list => list.gives item) collects
    · exact ⟨(some vs, found), collects, both_ok (need_some key vs) complete⟩
    · contradiction

/-- An object that shows a record is read as the record. -/
theorem Shows.gives {fs : Fields} (well : fs.wellFormed = true) (name : String) {values : fs.Values}
    {bytes : Bytes} (object : ShowsObject fs.keys (fs.Shows values) bytes) :
    Gives (fs.parts.record name) bytes values :=
  (fs.finds_all well).gives name object

end Fields

/-! ### Records with flaws -/

/-- An object whose members are flawed, as members of whatever values. -/
def FlawedObject (flawed : List Member → Prop) (bytes : Bytes) : Prop :=
  ∃ inside ms, bytes = objectOf inside ms ∧ (∀ m ∈ ms, IsValue m.value.value) ∧ flawed ms

def FlawedList (flawed : Bytes → Prop) (bytes : Bytes) : Prop :=
  ∃ inside items, bytes = listOf inside items ∧ (∀ x ∈ items, IsValue x.value) ∧
    ∃ x ∈ items, flawed x.value

/-- There is a member of the key with a flawed value. -/
def FlawedAt (key : String) (ms : List Member) (flawed : Bytes → Prop) : Prop :=
  ∃ m ∈ holding key ms, flawed m.value.value

/-- Two members have the key. -/
def Repeated (key : String) (ms : List Member) : Prop := 2 ≤ (holding key ms).length

def Missing (key : String) (ms : List Member) : Prop := holding key ms = []

namespace Fields

/-- A field without a default is missing, a field is there twice, or there is a flaw in a field. -/
def Flawed : Fields → List Member → Prop
  | .done, _ => False
  | .leaf key kind rest, ms =>
    (kind.fallback? = none ∧ Missing key ms) ∨ Repeated key ms ∨ rest.Flawed ms
  | .record key _ inner rest, ms =>
    Missing key ms ∨ Repeated key ms ∨ FlawedAt key ms (FlawedObject inner.Flawed) ∨ rest.Flawed ms
  | .recordOrNull key _ inner rest, ms =>
    Repeated key ms ∨ FlawedAt key ms (FlawedObject inner.Flawed) ∨ rest.Flawed ms
  | .records key _ inner rest, ms =>
    Missing key ms ∨ Repeated key ms ∨ FlawedAt key ms (FlawedList (FlawedObject inner.Flawed)) ∨
      rest.Flawed ms

theorem flawed_congr (fs : Fields) {ms ms' : List Member}
    (same : ∀ key ∈ fs.keys, holding key ms' = holding key ms) : fs.Flawed ms' ↔ fs.Flawed ms := by
  induction fs with
  | done => exact Iff.rfl
  | leaf key _ rest ih | record key _ _ rest _ ih | recordOrNull key _ _ rest _ ih
  | records key _ _ rest _ ih =>
    obtain ⟨first, later⟩ := List.forall_mem_cons.mp same
    simp only [Flawed, Missing, Repeated, FlawedAt, first, ih later]

/-- What is found of flawed members is not complete. -/
def Misses (fs : Fields) : Prop :=
  ∀ (ms : List Member) (found : fs.Found), fs.Flawed ms → Collects fs.parts.member fs.nothing ms found →
    ∃ cause, fs.complete found = .error cause

theorem Misses.fails {fs : Fields} (misses : fs.Misses) (name : String) {bytes : Bytes}
    (object : FlawedObject fs.Flawed bytes) : Fails (fs.parts.record name) bytes := by
  obtain ⟨inside, ms, rfl, shapes, flawed⟩ := object
  obtain ⟨found, collects⟩ | stops := members_decides fs.parts_decisive.member shapes fs.nothing
  · obtain ⟨cause, incomplete⟩ := misses ms found flawed collects
    exact RecordReader.read_incomplete collects incomplete
  · exact RecordReader.read_stops stops

theorem first_error {A B : Type} {m : Except Cause A} {n : Except Cause B} {cause : Cause}
    (failed : m = .error cause) : (do return (← m, ← n)) = (.error cause : Except Cause (A × B)) := by
  rw [failed]
  rfl

theorem second_error {A B : Type} (m : Except Cause A) {n : Except Cause B} {cause : Cause}
    (failed : n = .error cause) :
    ∃ cause, (do return (← m, ← n)) = (.error cause : Except Cause (A × B)) := by
  rw [failed]
  cases m with
  | error cause => exact ⟨cause, rfl⟩
  | ok _ => exact ⟨cause, rfl⟩

end Fields

theorem Fills.not_repeated {A : Type} {read : Reader A} {before after : Option A} {ms : List Member}
    (fills : Fills read before ms after) : ms.length < 2 := by
  obtain ⟨rfl, -⟩ | ⟨m, a, rfl, -⟩ := fills <;> simp

theorem Fills.not_fails {A : Type} {read : Reader A} {before after : Option A} {ms : List Member}
    (fills : Fills read before ms after) {m : Member} (member : m ∈ ms) : ¬ Fails read m.value.value := by
  obtain ⟨rfl, -⟩ | ⟨m, a, rfl, -, -, gives⟩ := fills
  · contradiction
  · obtain rfl := List.mem_singleton.mp member
    exact gives.not_fails

theorem Fills.of_missing {A : Type} {read : Reader A} {before after : Option A} {ms : List Member}
    (fills : Fills read before ms after) (missing : ms = []) : after = before := by
  obtain ⟨-, same⟩ | ⟨m, a, rfl, -⟩ := fills
  · exact same
  · contradiction

theorem FlawedList.fails {A : Type} {item : Reader A} (decisive : Decisive item) {flawed : Bytes → Prop}
    (fails : ∀ bytes, flawed bytes → Fails item bytes) {bytes : Bytes} (list : FlawedList flawed bytes) :
    Fails (readList item) bytes := by
  obtain ⟨inside, items, rfl, shapes, x, member, broken⟩ := list
  exact readList_fails shapes (fun x member => decisive x.value (shapes x member))
    ⟨x, member, fails x.value broken⟩

theorem FlawedObject.fails_orNull {A : Type} {read : Reader A} {flawed : List Member → Prop}
    {bytes : Bytes} (object : FlawedObject flawed bytes) (fails : Fails read bytes) :
    Fails (orNull read) bytes := by
  obtain ⟨inside, ms, rfl, -⟩ := object
  intro before tail ends
  rw [objectOf, orNull_apart (by decide) (by decide)]
  exact (fails.map some).here ends

namespace Fields

/-- Every flaw shows: a missing key in what is found, a repeated one in that it is refused, and one deeper
down in that its value is not read. -/
theorem misses_all (fs : Fields) (well : fs.wellFormed = true) : fs.Misses := by
  induction fs with
  | done => exact fun _ _ flawed => flawed.elim
  | leaf key kind rest ih =>
    simp only [wellFormed, Bool.and_eq_true, decide_eq_true_eq] at well
    rintro ms ⟨v, found⟩ flawed collects
    obtain ⟨fills, collects⟩ := collects_store_iff.mp collects
    obtain ⟨needed, missing⟩ | repeated | flawed := flawed
    · obtain rfl := fills.of_missing missing
      exact ⟨_, first_error (by rw [needed]; rfl)⟩
    · exact absurd repeated (Nat.not_le.mpr fills.not_repeated)
    · have within := (rest.flawed_congr (holding_fresh well.1 ms)).mpr flawed
      obtain ⟨cause, incomplete⟩ := ih well.2 _ found within collects
      exact second_error _ incomplete
  | record key name inner rest ihInner ih =>
    simp only [wellFormed, Bool.and_eq_true, decide_eq_true_eq] at well
    obtain ⟨⟨fresh, wellInner⟩, well⟩ := well
    rintro ms ⟨v, found⟩ flawed collects
    obtain ⟨fills, collects⟩ := collects_store_iff.mp collects
    obtain missing | repeated | ⟨m, member, broken⟩ | flawed := flawed
    · obtain rfl := fills.of_missing missing
      exact ⟨_, first_error rfl⟩
    · exact absurd repeated (Nat.not_le.mpr fills.not_repeated)
    · exact absurd ((ihInner wellInner).fails name broken) (fills.not_fails member)
    · have within := (rest.flawed_congr (holding_fresh fresh ms)).mpr flawed
      obtain ⟨cause, incomplete⟩ := ih well _ found within collects
      exact second_error _ incomplete
  | recordOrNull key name inner rest ihInner ih =>
    simp only [wellFormed, Bool.and_eq_true, decide_eq_true_eq] at well
    obtain ⟨⟨fresh, wellInner⟩, well⟩ := well
    rintro ms ⟨v, found⟩ flawed collects
    obtain ⟨fills, collects⟩ := collects_store_iff.mp collects
    obtain repeated | ⟨m, member, broken⟩ | flawed := flawed
    · exact absurd repeated (Nat.not_le.mpr fills.not_repeated)
    · exact absurd (broken.fails_orNull ((ihInner wellInner).fails name broken)) (fills.not_fails member)
    · have within := (rest.flawed_congr (holding_fresh fresh ms)).mpr flawed
      obtain ⟨cause, incomplete⟩ := ih well _ found within collects
      exact second_error (.ok (v.getD none)) incomplete
  | records key name inner rest ihInner ih =>
    simp only [wellFormed, Bool.and_eq_true, decide_eq_true_eq] at well
    obtain ⟨⟨fresh, wellInner⟩, well⟩ := well
    rintro ms ⟨v, found⟩ flawed collects
    obtain ⟨fills, collects⟩ := collects_store_iff.mp collects
    obtain missing | repeated | ⟨m, member, broken⟩ | flawed := flawed
    · obtain rfl := fills.of_missing missing
      exact ⟨_, first_error rfl⟩
    · exact absurd repeated (Nat.not_le.mpr fills.not_repeated)
    · have fails := broken.fails (inner.parts_decisive.record name) fun _ => (ihInner wellInner).fails name
      exact absurd fails (fills.not_fails member)
    · have within := (rest.flawed_congr (holding_fresh fresh ms)).mpr flawed
      obtain ⟨cause, incomplete⟩ := ih well _ found within collects
      exact second_error _ incomplete

/-- An object with a flaw is not read. -/
theorem Flawed.fails {fs : Fields} (well : fs.wellFormed = true) (name : String) {bytes : Bytes}
    (object : FlawedObject fs.Flawed bytes) : Fails (fs.parts.record name) bytes :=
  (fs.misses_all well).fails name object

end Fields
end IPsecControl.Json
