import IPsecControl.Proofs.Json.Record
import IPsecControl.Tunnel.Document

/-! Definitions as JSON documents. The text that is written of a definition has its bytes, and its
fields have keys of their own, so the definition is read back from its text. -/
namespace IPsecControl.Tunnel
open Json Text

theorem documentText_bytes {bytes : Bytes} (text : Utf8.IsText bytes) :
    Utf8.bytes (documentText bytes) = bytes :=
  text.bytes_lossy

/-- A record is read back from the document that is written of it. -/
theorem readDocument_write (fs : Fields) (name : String) (well : fs.wellFormed = true)
    (values : fs.Values) : readDocument fs name (documentText (fs.write values)) = .ok values := by
  have bytes := documentText_bytes (fs.write_isText values)
  rw [readDocument, bytes, fs.read_write name well values]
  rfl

theorem Definition.ofValues_values (d : Definition) : Definition.ofValues d.values = d := by
  have proposal : (d.proposal.map Proposal.values).map Proposal.ofValues = d.proposal := by
    cases d.proposal <;> rfl
  have children : (d.children.map ChildDefinition.values).map ChildDefinition.ofValues = d.children := by
    rw [List.map_map]
    exact List.map_id d.children
  obtain ⟨name, version, virtualIps, localAddresses, remoteAddresses, localAuth, remoteAuth, p, cs⟩ := d
  simp only [Definition.values, Definition.ofValues] at proposal children ⊢
  rw [proposal, children]
  rfl

/-- Every definition is read back from the JSON text that is written of it. -/
theorem Definition.ofJson_json (d : Definition) : Definition.ofJson d.json = .ok d := by
  have read := readDocument_write Definition.fields "ConnectionSpec" (by decide) d.values
  rw [Definition.ofJson, Definition.json, read]
  exact congrArg Except.ok d.ofValues_values

end IPsecControl.Tunnel
