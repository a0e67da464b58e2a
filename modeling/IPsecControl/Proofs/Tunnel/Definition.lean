import IPsecControl.Proofs.Algorithm.Table
import IPsecControl.Proofs.Wire.RoundTrip
import IPsecControl.Tunnel.Definition

/-! Definitions on the wire. A connection is made of exactly the valid definitions, and its lists are those
of the definition: no child, address, selector or algorithm is lost, added or moved. -/
namespace IPsecControl.Tunnel
open Message

/-! ### Requirements -/

theorem codes_requires {α : Type} [Enumeration α] (table : NameTable α) (names : List String) :
    Requires (codes table names) (names.map table.requirement) :=
  (table.lookupAll_requires names).map _

namespace Proposal
variable (p : Proposal)

def requirements : List Requirement :=
  p.ciphers.map Algorithm.ciphers.requirement ++
    p.integrities.map Algorithm.integrities.requirement ++
    p.groups.map Algorithm.groups.requirement

theorem message_requires : Requires p.message p.requirements := by
  rw [requirements, List.append_assoc]
  refine (codes_requires _ _).bind fun cryptoAlg _ => ?_
  refine (codes_requires _ _).bind fun integAlg _ => ?_
  exact (codes_requires _ _).map fun dhgroups => (⟨cryptoAlg, integAlg, dhgroups⟩ : Proposals)

end Proposal

namespace ChildDefinition
variable (c : ChildDefinition)

def requirements : List Requirement :=
  ⟨c.name ≠ "", .invalidConfig "child" "name is empty"⟩ :: c.proposal.requirements

theorem message_requires : Requires c.message c.requirements := by
  apply Requires.check Iff.rfl
  intro _
  exact c.proposal.message_requires.map fun proposals => ({
    name := c.name
    espProposals := some proposals
    localTs := selectors c.localSelectors
    remoteTs := selectors c.remoteSelectors } : Child)

end ChildDefinition

namespace Definition
variable (d : Definition)

def ownRequirements : List Requirement := [
  ⟨d.name ≠ "", .invalidConfig "conn" "name is empty"⟩,
  ⟨d.version = "1" ∨ d.version = "2",
    .invalidConfig "version" ("IKE version must be 1 or 2, got '" ++ d.version ++ "'")⟩,
  ⟨d.children ≠ [],
    .invalidConfig "children" ("connection '" ++ d.name ++ "' has no child")⟩]

/-- What is required of a definition, then of each of its children, and at last of its proposal. -/
def requirements : List Requirement :=
  d.ownRequirements ++
    [Algorithm.authMethods.requirement d.localAuth.method,
      Algorithm.authMethods.requirement d.remoteAuth.method] ++
    d.children.flatMap ChildDefinition.requirements ++
    d.proposal.toList.flatMap Proposal.requirements

theorem validate_requires : Requires d.validate d.ownRequirements := by
  have versions : (d.version = "1" ∨ d.version = "2") ↔ ¬ (d.version ≠ "1" ∧ d.version ≠ "2") := by
    rw [not_and_or, not_not, not_not]
  have children : d.children ≠ [] ↔ ¬ d.children.isEmpty = true := by
    rw [List.isEmpty_iff]
  exact .check Iff.rfl fun _ => .check versions fun _ => .check children fun _ => .ok ()

theorem message_requires : Requires d.message d.requirements := by
  rw [requirements, List.append_assoc, List.append_assoc]
  refine d.validate_requires.bind fun _ _ => ?_
  refine (Algorithm.authMethods.lookup_requires d.localAuth.method).bind fun localMethod _ => ?_
  refine (Algorithm.authMethods.lookup_requires d.remoteAuth.method).bind fun remoteMethod _ => ?_
  refine (Requires.list_mapM ChildDefinition.message_requires d.children).bind fun children _ => ?_
  exact (Requires.option_mapM Proposal.message_requires d.proposal).map _

end Definition

/-! ### What goes on the wire -/

/-- Each name stands for the code in its place, and no code is without a meaning. -/
structure Proposal.CarriedBy (p : Proposal) (m : Proposals) : Prop where
  ciphers : List.Forall₂ (fun name c => Algorithm.ciphers.lookup name = .ok c) p.ciphers m.ciphers
  integrities :
    List.Forall₂ (fun name i => Algorithm.integrities.lookup name = .ok i) p.integrities m.integrities
  groups : List.Forall₂ (fun name g => Algorithm.groups.lookup name = .ok g) p.groups m.groups
  cryptoAlg : m.cryptoAlg = m.ciphers.map Enumeration.code
  integAlg : m.integAlg = m.integrities.map Enumeration.code
  dhgroups : m.dhgroups = m.groups.map Enumeration.code

/-- There is a block exactly for selectors, and it lists them. -/
structure SelectorsIn (cidrs : List String) (block? : Option TrafficSelectors) : Prop where
  absent : block? = none ↔ cidrs = []
  listed : ∀ block ∈ block?, block.ts = cidrs.map fun cidr => { cidr }

structure ChildDefinition.CarriedBy (c : ChildDefinition) (m : Child) : Prop where
  name : m.name = c.name
  proposal : ∃ p, m.espProposals = some p ∧ c.proposal.CarriedBy p
  localSelectors : SelectorsIn c.localSelectors m.localTs
  remoteSelectors : SelectorsIn c.remoteSelectors m.remoteTs

structure Definition.CarriedBy (d : Definition) (m : Connection) : Prop where
  name : m.name = d.name
  version : m.version = d.version
  virtualIps : m.vips.map (·.addr) = d.virtualIps
  localAddresses : m.localAddrs.map (·.addr) = d.localAddresses
  remoteAddresses : m.remoteAddrs.map (·.addr) = d.remoteAddresses
  localAuth : ∃ a, m.localAuth = some a ∧ a.id = d.localAuth.id ∧
    Algorithm.authMethods.lookup d.localAuth.method = .ok a.method
  remoteAuth : ∃ a, m.remoteAuth = some a ∧ a.id = d.remoteAuth.id ∧
    Algorithm.authMethods.lookup d.remoteAuth.method = .ok a.method
  children : List.Forall₂ ChildDefinition.CarriedBy d.children m.children
  proposal : Option.Rel Proposal.CarriedBy d.proposal m.proposals

theorem codes_known {α : Type} [Enumeration α] [Enumeration.Faithful α] {table : NameTable α}
    {names : List String} {cs : List Int32} (found : codes table names = .ok cs) :
    List.Forall₂ (fun name a => table.lookup name = .ok a) names (Enumeration.known cs : List α) ∧
      cs = (Enumeration.known cs : List α).map Enumeration.code := by
  unfold codes at found
  cases all : table.lookupAll names with
  | error e =>
    rw [all] at found
    contradiction
  | ok as =>
    rw [all] at found
    cases found
    rw [Enumeration.known_codes]
    exact ⟨Result.forall₂_of_mapM all, rfl⟩

theorem Proposal.message_carries {p : Proposal} {m : Proposals} (built : p.message = .ok m) :
    p.CarriedBy m := by
  obtain ⟨cryptoAlg, ciphers, built⟩ := Result.ok_of_bind built
  obtain ⟨integAlg, integrities, built⟩ := Result.ok_of_bind built
  obtain ⟨dhgroups, groups, built⟩ := Result.ok_of_bind built
  cases built
  constructor
  · exact (codes_known ciphers).1
  · exact (codes_known integrities).1
  · exact (codes_known groups).1
  · exact (codes_known ciphers).2
  · exact (codes_known integrities).2
  · exact (codes_known groups).2

theorem selectors_listed (cidrs : List String) : SelectorsIn cidrs (selectors cidrs) := by
  constructor
  · cases cidrs <;> simp [selectors]
  · intro block member
    cases cidrs with
    | nil => cases member
    | cons cidr rest =>
      cases member
      rfl

theorem ChildDefinition.message_carries {c : ChildDefinition} {m : Child}
    (built : c.message = .ok m) : c.CarriedBy m := by
  unfold ChildDefinition.message at built
  split at built
  · contradiction
  · obtain ⟨p, proposal, built⟩ := Result.ok_of_bind built
    cases built
    constructor
    · rfl
    · exact ⟨p, rfl, Proposal.message_carries proposal⟩
    · exact selectors_listed c.localSelectors
    · exact selectors_listed c.remoteSelectors

theorem proposal_carries {p? : Option Proposal} {m? : Option Proposals}
    (built : p?.mapM Proposal.message = .ok m?) : Option.Rel Proposal.CarriedBy p? m? := by
  cases p? with
  | none =>
    cases built
    exact .none
  | some p =>
    obtain ⟨m, first, built⟩ := Result.ok_of_bind built
    cases built
    exact .some (Proposal.message_carries first)

theorem addresses_listed (values : List String) : (addresses values).map (·.addr) = values := by
  rw [addresses, List.map_map]
  exact List.map_id values

theorem Definition.message_carries {d : Definition} {m : Connection} (built : d.message = .ok m) :
    d.CarriedBy m := by
  obtain ⟨_, -, built⟩ := Result.ok_of_bind built
  obtain ⟨localMethod, localFound, built⟩ := Result.ok_of_bind built
  obtain ⟨remoteMethod, remoteFound, built⟩ := Result.ok_of_bind built
  obtain ⟨children, childrenBuilt, built⟩ := Result.ok_of_bind built
  obtain ⟨proposals, proposalsBuilt, built⟩ := Result.ok_of_bind built
  cases built
  constructor
  · rfl
  · rfl
  · exact addresses_listed d.virtualIps
  · exact addresses_listed d.localAddresses
  · exact addresses_listed d.remoteAddresses
  · refine ⟨_, rfl, rfl, ?_⟩
    rw [localFound, LocalAuth.method, Enumeration.ofCode_code]
  · refine ⟨_, rfl, rfl, ?_⟩
    rw [remoteFound, RemoteAuth.method, Enumeration.ofCode_code]
  · apply (Result.forall₂_of_mapM childrenBuilt).imp
    intro c child
    exact ChildDefinition.message_carries
  · exact proposal_carries proposalsBuilt

/-- A connection is made of a definition that meets all the requirements, and the first that it does not
meet is the error otherwise. The connection carries the definition, and so does what is read of its bytes,
unless they are more than a length can tell. -/
theorem definition_faithful (d : Definition) :
    Requires d.message d.requirements ∧
      ∀ connection, d.message = .ok connection → d.CarriedBy connection ∧
        ((encode connection).length < 2 ^ 64 →
          ∃ received, decode (encode connection) = .ok received ∧ d.CarriedBy received) := by
  refine ⟨d.message_requires, ?_⟩
  intro connection built
  have carried := Definition.message_carries built
  refine ⟨carried, ?_⟩
  intro fits
  exact ⟨connection, decode_encode (by decide) (by decide) _ fits, carried⟩

/-- Two children of one name, a cipher and a selector that are listed twice, and another name of a group. -/
def branchDefinition : Definition where
  name := "branch"
  version := "1"
  virtualIps := ["0.0.0.0"]
  localAddresses := ["192.0.2.1"]
  remoteAddresses := ["198.51.100.1", "198.51.100.2"]
  localAuth := ⟨" PSK", "branch.example"⟩
  remoteAuth := ⟨"eap", ""⟩
  proposal := some ⟨[], ["sha2_256"], ["x25519", "curve25519"]⟩
  children := [
    { name := "net", proposal := ⟨["aes_cbc", "AES_CBC"], ["sha1_96"], []⟩,
      remoteSelectors := ["10.1.0.0/16", "10.1.0.0/16"] },
    { name := "net", proposal := {} }]

/-- The second child has no name, and the proposal of the first a group that no table knows. -/
def brokenDefinition : Definition where
  name := "broken"
  localAddresses := []
  remoteAddresses := []
  localAuth := ⟨"psk", ""⟩
  remoteAuth := ⟨"psk", ""⟩
  children := [{ name := "net", proposal := ⟨["des"], [], ["modp999"]⟩ }, { name := "", proposal := {} }]

theorem definition_faithful_branch :
    (∃ connection received, branchDefinition.message = .ok connection ∧
      (encode connection).length < 2 ^ 64 ∧ branchDefinition.CarriedBy connection ∧
      decode (encode connection) = .ok received ∧ branchDefinition.CarriedBy received) ∧
    FirstViolation brokenDefinition.requirements (.unknownName "dh group" "modp999") := by
  have built : ∃ connection, branchDefinition.message = .ok connection ∧
      (encode connection).length < 2 ^ 64 := ⟨_, rfl, by decide +kernel⟩
  have refused : brokenDefinition.message = .error (.unknownName "dh group" "modp999") := rfl
  constructor
  · obtain ⟨connection, built, fits⟩ := built
    obtain ⟨carried, reads⟩ := (definition_faithful _).2 _ built
    obtain ⟨received, read, carriedToo⟩ := reads fits
    exact ⟨connection, received, built, fits, carried, read, carriedToo⟩
  · exact ((definition_faithful _).1.refuses _).mp refused

end IPsecControl.Tunnel
