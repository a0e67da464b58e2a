import IPsecControl.Proofs.Net.Address
import IPsecControl.Proofs.Text.Utf8
import IPsecControl.Proofs.Wire.RoundTrip
import IPsecControl.Sa.Request

/-! Requests on the wire. A deletion names the association that an addition with the same identity
makes: its bytes are the first field of the addition, and no two identities share them. -/
namespace IPsecControl
open Message

/-! ### Bytes -/

namespace Message

/-- An addition is a deletion with the data behind it. -/
theorem encode_addSaRequest (id : Option SaId) (data : Option SaData) :
    encode (⟨id, data⟩ : AddSaRequest) =
      encode (⟨id⟩ : DeleteSaRequest) ++ encode (⟨none, data⟩ : AddSaRequest) := by
  cases id <;> simp [encode, schema, toRecord, Wire.Schema.encode]

theorem encode_deleteSaRequest (id : Option SaId) :
    encode (⟨id⟩ : DeleteSaRequest) = encode (⟨id, none⟩ : AddSaRequest) := by
  rw [encode_addSaRequest]
  exact (List.append_nil _).symm

theorem SaId.size_le (m : SaId) :
    size m ≤ 100 + (m.src.utf8ByteSize + m.dst.utf8ByteSize) := by
  have src := Wire.Scalar.text_size_le 1 m.src
  have dst := Wire.Scalar.text_size_le 2 m.dst
  have spi := Wire.Scalar.word32_size_le 3 m.spi
  have proto := Wire.Scalar.code_size_le 4 m.proto
  have ifId := Wire.Scalar.word32_size_le 5 m.ifId
  have fields : size m = Wire.Scalar.text.size 1 m.src + (Wire.Scalar.text.size 2 m.dst +
      (Wire.Scalar.word32.size 3 m.spi + (Wire.Scalar.code.size 4 m.proto +
        Wire.Scalar.word32.size 5 m.ifId))) := rfl
  omega

theorem DeleteSaRequest.size_le (m : SaId) :
    size (⟨some m⟩ : DeleteSaRequest) ≤ 20 + size m := Wire.blockSize_le 1 _

theorem Protocol.code_injective : Function.Injective (Enumeration.code : Protocol → Int32) := by
  intro p q
  cases p <;> cases q <;> decide

end Message

namespace Sa

namespace Identifier

theorem message_injective : Function.Injective Identifier.message := by
  intro a b same
  obtain ⟨src, dst, spi, protocol, ifId⟩ := a
  obtain ⟨src', dst', spi', protocol', ifId'⟩ := b
  simp only [message, SaId.mk.injEq] at same
  obtain ⟨src_eq, dst_eq, rfl, protocol_eq, rfl⟩ := same
  obtain rfl := Net.Address.text_injective src_eq
  obtain rfl := Net.Address.text_injective dst_eq
  obtain rfl := Protocol.code_injective protocol_eq
  rfl

theorem text_size_le (a : Net.Address) : a.text.utf8ByteSize ≤ 160 := by
  have characters := a.render_length_le
  have bytes := Text.Utf8.bytes_ofList_length_le a.render
  rw [Wire.utf8_length] at bytes
  exact Nat.le_trans bytes (Nat.mul_le_mul_left 4 characters)

/-- The deletion of an identity is always short enough to be read back. -/
theorem deletion_fits (id : Identifier) :
    (encode (⟨some id.message⟩ : DeleteSaRequest)).length < 2 ^ 64 := by
  have src := text_size_le id.src
  have dst := text_size_le id.dst
  have inner : size id.message ≤ 100 + (id.src.text.utf8ByteSize + id.dst.text.utf8ByteSize) :=
    id.message.size_le
  have whole := DeleteSaRequest.size_le id.message
  rw [encode_length]
  omega

end Identifier

/-! ### Requests -/

theorem addRequest_accepted {id : Identifier} {params : Params} {data : SaData}
    (valid : id.validate = .ok ()) (accepted : params.message = .ok data) :
    addRequest id params = .ok ⟨some id.message, some data⟩ := by
  rw [addRequest, valid, accepted]
  rfl

theorem deleteRequest_valid {id : Identifier} (valid : id.validate = .ok ()) :
    deleteRequest id = .ok ⟨some id.message⟩ := by
  rw [deleteRequest, valid]
  rfl

/-- A deletion is addressed to what an addition with the same identity added. Its bytes come first in
those of the addition, a reader that takes them for an addition finds that identity and no data, and
they are the bytes of no other identity's deletion. -/
theorem deletion_addresses_addition {a b : Identifier} {params : Params} {data : SaData}
    (validA : a.validate = .ok ()) (validB : b.validate = .ok ())
    (accepted : params.message = .ok data) :
    ∃ (addition : AddSaRequest) (deletion other : DeleteSaRequest),
      addRequest a params = .ok addition ∧ deleteRequest a = .ok deletion ∧
      deleteRequest b = .ok other ∧
      encode deletion <+: encode addition ∧
      (∃ id, addition.saId = some id ∧
        decode (encode deletion) = .ok ({ saId := some id, saData := none } : AddSaRequest)) ∧
      (encode deletion = encode other → a = b) := by
  refine ⟨_, _, _, addRequest_accepted validA accepted, deleteRequest_valid validA,
    deleteRequest_valid validB, ?_, ⟨a.message, rfl, ?_⟩, ?_⟩
  · rw [encode_addSaRequest (some a.message) (some data)]
    exact List.prefix_append _ _
  · have fits := a.deletion_fits
    rw [encode_deleteSaRequest] at fits ⊢
    exact decode_encode (by decide) (by decide) _ fits
  · intro same
    have read := decode_encode (by decide) (by decide) _ a.deletion_fits
    rw [same, decode_encode (by decide) (by decide) _ b.deletion_fits] at read
    have messages : b.message = a.message := by simpa using read
    exact (Identifier.message_injective messages).symm

/-- Between two mapped IPv4 addresses. -/
def mappedIdentifier : Identifier where
  src := .v6 #v[0, 0, 0, 0, 0, 0xFFFF, 0x0A00, 1]
  dst := .v6 #v[0, 0, 0, 0, 0, 0xFFFF, 0x0A00, 2]
  spi := 256
  protocol := .esp
  ifId := 1

/-- The same, but for the mark of a mapped address. -/
def unmappedIdentifier : Identifier where
  src := .v6 #v[0, 0, 0, 0, 0, 0, 0x0A00, 1]
  dst := .v6 #v[0, 0, 0, 0, 0, 0, 0x0A00, 2]
  spi := 256
  protocol := .esp
  ifId := 1

theorem deletion_addresses_addition_mapped :
    ∃ (addition : AddSaRequest) (deletion other : DeleteSaRequest),
      addRequest mappedIdentifier {} = .ok addition ∧
      deleteRequest mappedIdentifier = .ok deletion ∧
      deleteRequest unmappedIdentifier = .ok other ∧
      encode deletion <+: encode addition ∧
      (∃ id, addition.saId = some id ∧
        decode (encode deletion) = .ok ({ saId := some id, saData := none } : AddSaRequest)) ∧
      encode deletion ≠ encode other := by
  have accepted : ({} : Params).message =
      .ok { mode := 2, encAlg := 11, replayWindow := 32 } := by decide
  obtain ⟨addition, deletion, other, added, deleted, others, first, read, apart⟩ :=
    deletion_addresses_addition (a := mappedIdentifier) (b := unmappedIdentifier)
      rfl rfl accepted
  exact ⟨addition, deletion, other, added, deleted, others, first, read,
    fun same => absurd (apart same) (by decide)⟩

end Sa
end IPsecControl
