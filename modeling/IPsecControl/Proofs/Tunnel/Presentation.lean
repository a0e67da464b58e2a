import IPsecControl.Proofs.Json.Written
import IPsecControl.Proofs.Tunnel.Document

/-! Definitions in any presentation. Order, blanks, spellings, members of unknown keys and defaults that
are left out make no difference to the definition that is read; a missing key and a repeated one do. -/
namespace IPsecControl.Json
open Reader Text

theorem Padded.ends (x : Padded) : Ends x.after.bytes := by
  have ends := x.after.ends ends_nil
  rwa [List.append_nil] at ends

theorem Padded.peek_after (x : Padded) : peek x.after.bytes = .ok (none, []) := by
  have skipped : x.after.bytes.dropWhile isBlankByte = [] :=
    List.dropWhile_eq_nil_iff.mpr (List.all_eq_true.mp x.after.blank)
  rw [peek, skipped]
  rfl

namespace Fields
variable (fs : Fields) {name : String} {x : Padded}

/-- A value that is given is all of a text that has nothing but blanks around it. -/
theorem read_gives {values : fs.Values} (gives : Gives (fs.parts.record name) x.value values) :
    fs.read name x.bytes = .ok values := by
  have whole := gives x.before x.after.bytes x.ends
  rw [read, Padded.bytes, whole]
  simp only [bind, Except.bind, x.peek_after]
  rfl

theorem read_fails (fails : Fails (fs.parts.record name) x.value) :
    ∃ e, fs.read name x.bytes = .error e := by
  obtain ⟨e, failed⟩ := fails x.before x.after.bytes x.ends
  rw [read, Padded.bytes, failed]
  exact ⟨e, rfl⟩

end Fields
end IPsecControl.Json

namespace IPsecControl.Tunnel
open Json Text

/-- The text is a value of the given kind, between blanks. -/
def IsDocument (kind : Bytes → Prop) (text : String) : Prop :=
  ∃ x : Padded, Utf8.bytes text = x.bytes ∧ kind x.value

/-- The text is an object that shows the definition. -/
def Definition.ShownBy (d : Definition) : String → Prop :=
  IsDocument (ShowsObject Definition.fields.keys (Definition.fields.Shows d.values))

/-- The text is an object that lacks a key of a definition or repeats one, at any level. -/
def Definition.Flawed : String → Prop := IsDocument (FlawedObject Definition.fields.Flawed)

/-- The text that is written of a definition shows it. Any text that shows it is read as the definition,
and no text with a flaw is read. -/
theorem Definition.ofJson_presentation : (∀ d : Definition, d.ShownBy d.json) ∧
    (∀ (d : Definition) (text : String), d.ShownBy text → Definition.ofJson text = .ok d) ∧
    ∀ text : String, Definition.Flawed text →
      ∃ message, Definition.ofJson text = .error (.invalidConfig "connection" message) := by
  have well : Definition.fields.wellFormed = true := by decide
  refine ⟨fun d => ?_, ?_, ?_⟩
  · have bytes := documentText_bytes (Definition.fields.write_isText d.values)
    refine ⟨.bare (Definition.fields.write d.values), ?_, Definition.fields.write_shows well d.values⟩
    rw [Padded.bare_bytes]
    exact bytes
  · rintro d text ⟨x, bytes, shown⟩
    have read := Definition.fields.read_gives (Fields.Shows.gives well "ConnectionSpec" shown)
    rw [Definition.ofJson, readDocument, bytes, read]
    exact congrArg Except.ok d.ofValues_values
  · rintro text ⟨x, bytes, flawed⟩
    obtain ⟨e, failed⟩ := Definition.fields.read_fails (Fields.Flawed.fails well "ConnectionSpec" flawed)
    rw [Definition.ofJson, readDocument, bytes, failed]
    exact ⟨_, rfl⟩

/-- A definition with all its defaults. -/
def Definition.plain : Definition where
  name := "a"
  localAddresses := ["10.0.0.1"]
  remoteAddresses := []
  localAuth := ⟨"psk", "b"⟩
  remoteAuth := ⟨"psk", "b"⟩
  children := []

/-- The entries of an authentication the other way round, or without a method. -/
def authEntries (whole : Bool) : List (String × Bytes) :=
  ("id", textBytes "b") :: if whole then [("method", textBytes "psk")] else []

/-- The plain definition out of order, with blanks and a key it does not know, and without what may be left
out; an authentication may be flawed. -/
def shuffledEntries (whole : Bool) : List (String × Bytes) := [
  ("children", Fields.listBytes []),
  ("remote_auth", objectOf ⟨[10], rfl⟩ (bareMembers (authEntries whole))),
  ("note", 110 :: nullRest),
  ("local_auth", objectOf .none (bareMembers (authEntries true))),
  ("remote_addresses", Fields.listBytes []),
  ("local_addresses", Fields.listBytes (["10.0.0.1"].map textBytes)),
  ("name", textBytes "a")]

def shuffled (whole : Bool) : Padded :=
  ⟨.none, objectOf .none (bareMembers (shuffledEntries whole)), ⟨[32], rfl⟩⟩

theorem Definition.ofJson_presentation_shuffled :
    Definition.plain.ShownBy (documentText (shuffled true).bytes) ∧
    Definition.ofJson (documentText (shuffled true).bytes) = .ok Definition.plain ∧
    Definition.Flawed (documentText (shuffled false).bytes) ∧
    ∃ message, Definition.ofJson (documentText (shuffled false).bytes) =
      .error (.invalidConfig "connection" message) := by
  have bytes : ∀ whole, Utf8.bytes (documentText (shuffled whole).bytes) = (shuffled whole).bytes :=
    fun whole => documentText_bytes (.ascii (by cases whole <;> decide +kernel))
  have auth : ∀ inside, ShowsObject Authentication.fields.keys
      (Authentication.fields.Shows ("psk", "b", ())) (objectOf inside (bareMembers (authEntries true))) := by
    refine fun inside => ⟨inside, _, rfl, ⟨holds_one ?_ (textBytes_shows "psk"),
      holds_one ?_ (textBytes_shows "b"), trivial⟩, bareMembers_admissible ?_⟩ <;>
      simp [authEntries, Fields.keys]
  have shown : Definition.plain.ShownBy (documentText (shuffled true).bytes) := by
    refine ⟨_, bytes true, .none, _, rfl, ⟨holds_one ?_ (textBytes_shows "a"), holds_none ?_ rfl,
      holds_none ?_ rfl, holds_one ?_ (listBytes_shows ["10.0.0.1"] textBytes_shows),
      holds_one ?_ (listBytes_shows [] textBytes_shows), holds_one ?_ (auth .none),
      holds_one ?_ (auth ⟨[10], rfl⟩), holds_none ?_ rfl,
      holds_one ?_ ⟨.none, [], listBytes_eq [], .nil⟩, trivial⟩, bareMembers_admissible ?_⟩ <;>
      simp [shuffledEntries, Fields.keys, IsValue.null]
  have flawed : Definition.Flawed (documentText (shuffled false).bytes) := by
    have authValues : ∀ whole inside, IsValue (objectOf inside (bareMembers (authEntries whole))) := by
      refine fun whole inside => .object inside (bareMembers_values ?_)
      cases whole <;> simp [authEntries, isValue_textBytes]
    have lists : ∀ ss : List String, IsValue (Fields.listBytes (ss.map textBytes)) := fun ss =>
      isValue_listBytes (List.forall_mem_map.mpr fun s _ => isValue_textBytes s)
    have remote : FlawedObject Authentication.fields.Flawed
        (objectOf ⟨[10], rfl⟩ (bareMembers (authEntries false))) := by
      refine ⟨_, _, rfl, bareMembers_values ?_, .inl ⟨rfl, missing_bare ?_⟩⟩ <;>
        simp [authEntries, isValue_textBytes]
    refine ⟨_, bytes false, .none, _, rfl, bareMembers_values ?_, ?_⟩
    · have empty := lists []
      have single := lists ["10.0.0.1"]
      rw [List.map_nil] at empty
      simp only [shuffledEntries, List.forall_mem_cons]
      exact ⟨empty, authValues false _, .null, authValues true _, empty, single, isValue_textBytes "a",
        List.forall_mem_nil _⟩
    · iterate 5 refine .inr (.inr ?_)
      refine .inr (.inr (.inr (.inr (.inr (.inl (flawedAt_one ?_ remote))))))
      simp [shuffledEntries]
  exact ⟨shown, Definition.ofJson_presentation.2.1 _ _ shown, flawed,
    Definition.ofJson_presentation.2.2 _ flawed⟩

end IPsecControl.Tunnel
