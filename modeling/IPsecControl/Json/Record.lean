import IPsecControl.Json.Value

/-! Records in JSON. Fields have keys; a field holds a text, a list of texts, a record, or a
list of records, and some fields may be left out. A record is read from an object, whose
keys come in any order and may include unknown ones, or from a list with the fields in
order. It is written as an object with its fields in order and without blanks. -/
namespace IPsecControl.Json
open Reader Text

/-- Fields without records in them. -/
inductive Leaf where
  /-- A text, with the text that stands for a missing one. -/
  | text (fallback : Option String)
  /-- A list of texts, which may be missing if empty. -/
  | texts (optional : Bool)
  deriving DecidableEq, Repr

abbrev Leaf.Value : Leaf → Type
  | .text _ => String
  | .texts _ => List String

/-- The value of a leaf that is left out. -/
def Leaf.fallback? : (k : Leaf) → Option k.Value
  | .text fallback => fallback
  | .texts optional => if optional then some [] else none

/-- The fields of a record. A record field carries the name of its type. -/
inductive Fields where
  | done
  | leaf (key : String) (kind : Leaf) (rest : Fields)
  | record (key name : String) (inner rest : Fields)
  /-- A record that may be missing or null. -/
  | recordOrNull (key name : String) (inner rest : Fields)
  | records (key name : String) (inner rest : Fields)
  deriving DecidableEq, Repr

namespace Fields

/-- One value for each field. -/
abbrev Values : Fields → Type
  | .done => Unit
  | .leaf _ kind rest => kind.Value × rest.Values
  | .record _ _ inner rest => inner.Values × rest.Values
  | .recordOrNull _ _ inner rest => Option inner.Values × rest.Values
  | .records _ _ inner rest => List inner.Values × rest.Values

abbrev Found : Fields → Type
  | .done => Unit
  | .leaf _ kind rest => Option kind.Value × rest.Found
  | .record _ _ inner rest => Option inner.Values × rest.Found
  | .recordOrNull _ _ inner rest => Option (Option inner.Values) × rest.Found
  | .records _ _ inner rest => Option (List inner.Values) × rest.Found

def nothing : (fs : Fields) → fs.Found
  | .done => ()
  | .leaf _ _ rest | .record _ _ _ rest | .recordOrNull _ _ _ rest | .records _ _ _ rest =>
    (none, rest.nothing)

def arity : Fields → Nat
  | .done => 0
  | .leaf _ _ rest | .record _ _ _ rest | .recordOrNull _ _ _ rest | .records _ _ _ rest =>
    rest.arity + 1

def need {α : Type} (key : String) : Option α → Except Cause α
  | some a => .ok a
  | none => .error (.missingField key)

/-- All values, if no field is missing that has to be there. -/
def complete : (fs : Fields) → fs.Found → Except Cause fs.Values
  | .done, _ => .ok ()
  | .leaf key kind rest, (v, r) => do
    return (← need key (v.or kind.fallback?), ← rest.complete r)
  | .record key _ _ rest, (v, r) => do return (← need key v, ← rest.complete r)
  | .recordOrNull _ _ _ rest, (v, r) => do return (v.getD none, ← rest.complete r)
  | .records key _ _ rest, (v, r) => do return (← need key v, ← rest.complete r)

end Fields

/-! ### Reading -/

section
variable {α : Type}

/-- Reads items up to the end of a list; the fuel bounds their number. -/
def readItems (item : Reader α) : Nat → Bool → Reader (List α)
  | 0, _ => return []
  | fuel + 1, first => do
    if ← moreItems first then
      let a ← item
      return a :: (← readItems item fuel false)
    else return []

def readList (item : Reader α) : Reader (List α) := do
  match ← peek with
  | none => failPast .endInValue
  | some b =>
    if b = openBracket then
      skip
      let as ← readItems item ((← get).length + 1) true
      endList
      return as
    else invalidType "a sequence"

def readString : Reader String := do
  match ← peek with
  | none => failPast .endInValue
  | some b =>
    if b = quote then
      skip
      readText
    else invalidType "a string"

def Leaf.read : (k : Leaf) → Reader k.Value
  | .text _ => readString
  | .texts _ => readList readString

/-- Reads a value that may be null. -/
def orNull (value : Reader α) : Reader (Option α) := do
  if (← peek) = some 110 then
    skip
    literal nullRest
    return none
  else return some (← value)

/-- How the members of an object and the items of a list are read as a record: what a key
does to the values found, and the values of the items in order. A cause without a place is
the record's own. -/
structure RecordReader (Found Values : Type) where
  name : String
  nothing : Found
  member : String → Found → Except Cause (Option (Reader Found))
  inOrder : Reader (Except Cause Values)
  complete : Found → Except Cause Values

variable {Found Values : Type}

/-- Reads members up to the end of an object; the fuel bounds their number. -/
def members (member : String → Found → Except Cause (Option (Reader Found))) :
    Nat → Bool → Found → Reader (Except Cause Found)
  | 0, _, found => return .ok found
  | fuel + 1, first, found => do
    if ← moreMembers first then
      skip
      let key ← readText
      match member key found with
      | .error cause => return .error cause
      | .ok known =>
        readColon
        match known with
        | some value => members member fuel false (← value)
        | none =>
          passValue
          members member fuel false found
    else return .ok found

/-- A cause of the record's own is placed behind the end of the record, if that is next. -/
def settle (closing : UInt8) (ending : Reader Unit) : Except Cause Values → Reader Values
  | .ok values => do
    ending
    return values
  | .error cause => do
    match ← peek with
    | some b =>
      if b = closing then skip
      else if b = comma ∧ closing = closeBracket then
        skip
        let _ ← peek
    | none => pure ()
    fail cause

/-- Reads a record from an object or a list. -/
def RecordReader.read (r : RecordReader Found Values) : Reader Values := do
  match ← peek with
  | none => failPast .endInValue
  | some b =>
    if b = openBracket then
      skip
      settle closeBracket endList (← r.inOrder)
    else if b = openBrace then
      skip
      let found ← members r.member ((← get).length + 1) true r.nothing
      settle closeBrace endObject (found.bind r.complete)
    else invalidType ("struct " ++ r.name)

end

namespace Fields

def elements (n : Nat) : String :=
  decimal n ++ if n = 1 then " element" else " elements"

/-- One member: its value goes to its field, which has to be empty; an unknown key has none. -/
def store {α β : Type} (key : String) (read : Reader α)
    (rest : String → β → Except Cause (Option (Reader β)))
    (k : String) (v : Option α) (r : β) : Except Cause (Option (Reader (Option α × β))) :=
  if k = key then
    match v with
    | some _ => .error (.duplicateField key)
    | none => .ok (some (do return (some (← read), r)))
  else (rest k r).map fun value => value.map fun value => do return (v, ← value)

/-- One item in order: a missing one is the fallback, if there is one. -/
def itemInOrder {α β : Type} (short : Cause) (read : Reader α) (fallback : Option α) (index : Nat)
    (rest : Reader (Except Cause β)) : Reader (Except Cause (α × β)) := do
  if ← moreItems (index == 0) then
    let a ← read
    return (← rest).map (a, ·)
  else
    match fallback with
    | some a => return (← rest).map (a, ·)
    | none => return .error short

/-- What reads the members and the items of a record. -/
structure Parts (fs : Fields) where
  member : String → fs.Found → Except Cause (Option (Reader fs.Found))
  inOrder : String → Nat → Nat → Reader (Except Cause fs.Values)

def Parts.record {fs : Fields} (parts : fs.Parts) (name : String) : Reader fs.Values :=
  RecordReader.read {
    name
    nothing := fs.nothing
    member := parts.member
    inOrder := parts.inOrder name fs.arity 0
    complete := fs.complete }

def tooShort (name : String) (total index : Nat) : Cause :=
  .invalidLength index ("struct " ++ name ++ " with " ++ elements total)

def parts : (fs : Fields) → fs.Parts
  | .done => ⟨fun _ _ => .ok none, fun _ _ _ => return .ok ()⟩
  | .leaf key kind rest => {
      member := fun k (v, r) => store key kind.read rest.parts.member k v r
      inOrder := fun name total index =>
        itemInOrder (tooShort name total index) kind.read kind.fallback? index
          (rest.parts.inOrder name total (index + 1)) }
  | .record key inside inner rest => {
      member := fun k (v, r) => store key (inner.parts.record inside) rest.parts.member k v r
      inOrder := fun name total index =>
        itemInOrder (tooShort name total index) (inner.parts.record inside) none index
          (rest.parts.inOrder name total (index + 1)) }
  | .recordOrNull key inside inner rest => {
      member := fun k (v, r) =>
        store key (orNull (inner.parts.record inside)) rest.parts.member k v r
      inOrder := fun name total index =>
        itemInOrder (tooShort name total index) (orNull (inner.parts.record inside)) (some none)
          index (rest.parts.inOrder name total (index + 1)) }
  | .records key inside inner rest => {
      member := fun k (v, r) =>
        store key (readList (inner.parts.record inside)) rest.parts.member k v r
      inOrder := fun name total index =>
        itemInOrder (tooShort name total index) (readList (inner.parts.record inside)) none index
          (rest.parts.inOrder name total (index + 1)) }

/-- Reads a whole text as a record of the type `name`. -/
def read (fs : Fields) (name : String) (bytes : Bytes) : Except Failure fs.Values := do
  let (values, rest) ← (fs.parts.record name) bytes
  let (next, rest) ← peek rest
  if next.isSome then .error ⟨.trailingCharacters, rest.drop 1⟩ else .ok values

/-! ### Writing -/

/-- Items with commas between them, in brackets. -/
def listBytes (items : List Bytes) : Bytes :=
  openBracket :: List.intercalate [comma] items ++ [closeBracket]

def Leaf.write : (k : Leaf) → k.Value → Bytes
  | .text _, (s : String) => textBytes s
  | .texts _, (ss : List String) => listBytes (ss.map textBytes)

/-- Members with commas between them, in braces. -/
def objectBytes (members : List Bytes) : Bytes :=
  openBrace :: List.intercalate [comma] members ++ [closeBrace]

/-- A key, its colon and its value. -/
def memberBytes (key : String) (value : Bytes) : Bytes := textBytes key ++ colon :: value

def memberList : (fs : Fields) → fs.Values → List Bytes
  | .done, _ => []
  | .leaf key kind rest, (v, r) => memberBytes key (Leaf.write kind v) :: rest.memberList r
  | .record key _ inner rest, (v, r) =>
    memberBytes key (objectBytes (inner.memberList v)) :: rest.memberList r
  | .recordOrNull key _ inner rest, (v, r) =>
    memberBytes key
      (match v with
        | none => 110 :: nullRest
        | some v => objectBytes (inner.memberList v)) :: rest.memberList r
  | .records key _ inner rest, (vs, r) =>
    memberBytes key (listBytes (vs.map fun v => objectBytes (inner.memberList v))) ::
      rest.memberList r

def write (fs : Fields) (values : fs.Values) : Bytes := objectBytes (fs.memberList values)

end Fields
end IPsecControl.Json
