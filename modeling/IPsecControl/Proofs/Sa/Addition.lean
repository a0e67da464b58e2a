import IPsecControl.Proofs.Algorithm.Table
import IPsecControl.Proofs.Net.Address
import IPsecControl.Proofs.Wire.RoundTrip
import IPsecControl.Sa.Request

/-! Additions. A request is made of exactly the valid inputs, and whoever reads its bytes finds every part
of the input in a field of its own. -/
namespace IPsecControl.Sa
open Message

/-! ### Requirements -/

namespace Identifier
variable (id : Identifier)

def requirements : List Requirement := [
  ⟨id.spi ≠ 0, .invalidConfig "spi" "must be non-zero"⟩,
  ⟨id.protocol = .esp ∨ id.protocol = .ah, .invalidConfig "proto" "must be esp or ah"⟩,
  ⟨id.src.family = id.dst.family, .invalidConfig "dst"
    (id.src.text ++ " and " ++ id.dst.text ++ " are different address families")⟩]

theorem validate_requires : Requires id.validate id.requirements := by
  have given : (id.protocol = .esp ∨ id.protocol = .ah) ↔ ¬ id.protocol = .unspecified := by
    cases id.protocol <;> simp
  refine .check Iff.rfl fun _ => .check given fun _ => .check ?_ fun _ => .ok ()
  exact Decidable.not_not.symm

end Identifier

namespace Params
variable (p : Params)

def requirements : List Requirement := [
  Algorithm.modes.requirement p.mode,
  Algorithm.ciphers.requirement p.encAlg,
  Algorithm.integrities.requirement p.intAlg,
  ⟨p.encKey ≠ [] ∨ Algorithm.ciphers.lookup p.encAlg = .ok .null,
    .invalidConfig "enc_key" (p.encAlg ++ " requires a key")⟩,
  ⟨p.intKey ≠ [] ∨ Algorithm.integrities.lookup p.intAlg = .ok .none,
    .invalidConfig "int_key" (p.intAlg ++ " requires a key")⟩]

theorem message_requires : Requires p.message p.requirements := by
  refine (Algorithm.modes.lookup_requires p.mode).bind fun mode _ => ?_
  refine (Algorithm.ciphers.lookup_requires p.encAlg).bind fun cipher found => ?_
  refine (Algorithm.integrities.lookup_requires p.intAlg).bind fun integrity found' => ?_
  have cipherKey : (p.encKey ≠ [] ∨ Algorithm.ciphers.lookup p.encAlg = .ok .null) ↔
      ¬ (Algorithm.cipherNeedsKey cipher && p.encKey.isEmpty) = true := by
    rw [found, Except.ok.injEq, ← Algorithm.cipherNeedsKey_of_lookup found]
    cases Algorithm.cipherNeedsKey cipher <;> simp
  have integrityKey : (p.intKey ≠ [] ∨ Algorithm.integrities.lookup p.intAlg = .ok .none) ↔
      ¬ (Algorithm.integrityNeedsKey integrity && p.intKey.isEmpty) = true := by
    rw [found', Except.ok.injEq, ← Algorithm.integrityNeedsKey_eq_false]
    cases Algorithm.integrityNeedsKey integrity <;> simp
  exact .check cipherKey fun _ => .check integrityKey fun _ => .ok _

end Params

theorem addRequest_requires (id : Identifier) (p : Params) :
    Requires (addRequest id p) (id.requirements ++ p.requirements) := by
  refine id.validate_requires.bind fun _ _ => ?_
  rw [← List.append_nil p.requirements]
  exact p.message_requires.bind fun _ _ => .ok _

/-! ### What goes on the wire -/

/-- The message identifies the association, with addresses that read as its own. -/
structure Identifier.CarriedBy (id : Identifier) (m : SaId) : Prop where
  src : m.src = id.src.text
  dst : m.dst = id.dst.text
  srcReads : Net.Address.parse? m.src.toList = some id.src
  dstReads : Net.Address.parse? m.dst.toList = some id.dst
  spi : m.spi = id.spi
  protocol : m.protocol = id.protocol
  ifId : m.ifId = id.ifId

/-- The message holds the parameters, with the codes of what they name. -/
structure Params.CarriedBy (p : Params) (m : SaData) : Prop where
  reqid : m.reqid = p.reqid
  mode : Algorithm.modes.lookup p.mode = .ok m.encapsulation
  interface : m.interface = p.interface
  cipher : Algorithm.ciphers.lookup p.encAlg = .ok m.cipher
  encKey : m.encKey = p.encKey
  integrity : Algorithm.integrities.lookup p.intAlg = .ok m.integrity
  intKey : m.intKey = p.intKey
  replayWindow : m.replayWindow = p.replayWindow
  tfc : m.tfc = p.tfc
  flags : p.flags = { encap := m.encap, esn := m.esn, copyDf := m.copyDf, copyEcn := m.copyEcn,
                      copyDscp := m.copyDscp, initiator := m.initiator, inbound := m.inbound,
                      update := m.update }

theorem Identifier.message_carries (id : Identifier) : id.CarriedBy id.message := by
  have reads (a : Net.Address) : Net.Address.parse? a.text.toList = some a := by
    rw [Net.Address.text, String.toList_ofList, Net.Address.parse?_render]
  constructor
  case srcReads => exact reads id.src
  case dstReads => exact reads id.dst
  case protocol => exact Enumeration.ofCode_code id.protocol
  all_goals rfl

theorem Params.message_carries {p : Params} {data : SaData} (built : p.message = .ok data) :
    p.CarriedBy data := by
  obtain ⟨mode, modeFound, built⟩ := Result.ok_of_bind built
  obtain ⟨cipher, cipherFound, built⟩ := Result.ok_of_bind built
  obtain ⟨integrity, integrityFound, built⟩ := Result.ok_of_bind built
  split at built
  · cases built
  split at built
  · cases built
  cases built
  constructor
  case mode => rw [modeFound, SaData.encapsulation, Enumeration.ofCode_code]
  case cipher => rw [cipherFound, SaData.cipher, Enumeration.ofCode_code]
  case integrity => rw [integrityFound, SaData.integrity, Enumeration.ofCode_code]
  all_goals rfl

theorem addRequest_carries {id : Identifier} {p : Params} {request : AddSaRequest}
    (built : addRequest id p = .ok request) :
    ∃ data, request = ⟨some id.message, some data⟩ ∧ p.CarriedBy data := by
  obtain ⟨_, -, built⟩ := Result.ok_of_bind built
  obtain ⟨data, named, built⟩ := Result.ok_of_bind built
  cases built
  exact ⟨data, rfl, Params.message_carries named⟩

/-- An addition is made if its input meets all the requirements, and fails for the first that it does not
meet. Its bytes, unless they are more than a length can tell, are read as a request that carries the
input. -/
theorem addition_faithful (id : Identifier) (p : Params) :
    Requires (addRequest id p) (id.requirements ++ p.requirements) ∧
      ∀ request, addRequest id p = .ok request → (encode request).length < 2 ^ 64 →
        ∃ identity data, decode (encode request) = .ok (⟨some identity, some data⟩ : AddSaRequest) ∧
          id.CarriedBy identity ∧ p.CarriedBy data := by
  refine ⟨addRequest_requires id p, ?_⟩
  intro request built fits
  obtain ⟨data, rfl, carries⟩ := addRequest_carries built
  exact ⟨_, data, decode_encode (by decide) (by decide) _ fits, id.message_carries, carries⟩

def hostIdentifier : Identifier where
  src := .v6 #v[0xFD00, 0, 0, 0, 0, 0, 0, 1]
  dst := .v6 #v[0xFD00, 0, 0, 0, 0, 0, 0, 2]
  spi := 256
  protocol := .esp
  ifId := 0

/-- Names in other letters and with blanks around them, a key for the cipher only, and two flags. -/
def hostParams : Params where
  mode := " Transport"
  interface := "ipsec0"
  encAlg := "AES_GCM_ICV_16 "
  encKey := [0xDE, 0xAD]
  replayWindow := 0
  flags := { esn := true, update := true }

def hostRequest : AddSaRequest where
  saId := some { src := "fd00::1", dst := "fd00::2", spi := 256, proto := 50 }
  saData := some { mode := 1, interface := "ipsec0", encAlg := 20, encKey := [0xDE, 0xAD], esn := true,
                   update := true }

theorem addition_faithful_between_hosts :
    addRequest hostIdentifier hostParams = .ok hostRequest ∧ (encode hostRequest).length < 2 ^ 64 ∧
      (∃ identity data, decode (encode hostRequest) = .ok (⟨some identity, some data⟩ : AddSaRequest) ∧
        hostIdentifier.CarriedBy identity ∧ hostParams.CarriedBy data) ∧
      ¬ ∃ request, addRequest hostIdentifier { hostParams with encKey := [] } = .ok request := by
  have built : addRequest hostIdentifier hostParams = .ok hostRequest := by decide +kernel
  have fits : (encode hostRequest).length < 2 ^ 64 := by decide
  refine ⟨built, fits, (addition_faithful _ _).2 _ built fits, ?_⟩
  intro accepted
  have all := (addition_faithful _ _).1.accepts.mp accepted
  obtain ⟨-, met⟩ := List.forall_mem_append.mp all
  have keyed : ([] : Wire.Bytes) ≠ [] ∨ Algorithm.ciphers.lookup hostParams.encAlg = .ok .null :=
    met _ (.tail _ (.tail _ (.tail _ (.head _))))
  exact absurd keyed (by decide)

end IPsecControl.Sa
