import IPsecControl.Algorithm.Table
import IPsecControl.Message.Connection

/-! Definitions of connections. Authentication methods and algorithms are given by name;
a definition goes on the wire only when every name in it is known. -/
namespace IPsecControl.Tunnel
open Message

/-- Identity and authentication method of one side. -/
structure Authentication where
  method : String
  id : String
  deriving DecidableEq, Repr

/-- Algorithms in order of preference. -/
structure Proposal where
  ciphers : List String := []
  integrities : List String := []
  groups : List String := []
  deriving DecidableEq, Repr

structure ChildDefinition where
  name : String
  proposal : Proposal
  localSelectors : List String := []
  remoteSelectors : List String := []
  deriving DecidableEq, Repr

/-- A named connection. Without a proposal the daemon uses its own. -/
structure Definition where
  name : String
  version : String := "2"
  virtualIps : List String := []
  localAddresses : List String
  remoteAddresses : List String
  localAuth : Authentication
  remoteAuth : Authentication
  proposal : Option Proposal := none
  children : List ChildDefinition
  deriving DecidableEq, Repr

def codes {α : Type} [Enumeration α] (table : NameTable α) (names : List String) :
    Result (List Int32) :=
  (table.lookupAll names).map fun as => as.map Enumeration.code

def Proposal.message (p : Proposal) : Result Proposals := do
  let cryptoAlg ← codes Algorithm.ciphers p.ciphers
  let integAlg ← codes Algorithm.integrities p.integrities
  let dhgroups ← codes Algorithm.groups p.groups
  return { cryptoAlg, integAlg, dhgroups }

/-- Selectors go out as given; an empty list goes out as none. -/
def selectors (cidrs : List String) : Option TrafficSelectors :=
  if cidrs.isEmpty then none else some { ts := cidrs.map fun cidr => { cidr } }

def ChildDefinition.message (c : ChildDefinition) : Result Child := do
  if c.name = "" then .error (.invalidConfig "child" "name is empty")
  else
    let proposals ← c.proposal.message
    return {
      name := c.name
      espProposals := some proposals
      localTs := selectors c.localSelectors
      remoteTs := selectors c.remoteSelectors }

def addresses (values : List String) : List Addrs := values.map fun addr => { addr }

namespace Definition
variable (d : Definition)

def child? (name : String) : Option ChildDefinition := d.children.find? (·.name = name)

/-- What holds of a definition apart from the names in it. -/
def validate : Result Unit :=
  if d.name = "" then .error (.invalidConfig "conn" "name is empty")
  else if d.version ≠ "1" ∧ d.version ≠ "2" then
    .error (.invalidConfig "version" ("IKE version must be 1 or 2, got '" ++ d.version ++ "'"))
  else if d.children.isEmpty then
    .error (.invalidConfig "children" ("connection '" ++ d.name ++ "' has no child"))
  else .ok ()

def message : Result Connection := do
  d.validate
  let localMethod ← Algorithm.authMethods.lookup d.localAuth.method
  let remoteMethod ← Algorithm.authMethods.lookup d.remoteAuth.method
  let children ← d.children.mapM ChildDefinition.message
  let proposals ← d.proposal.mapM Proposal.message
  return {
    name := d.name
    version := d.version
    vips := addresses d.virtualIps
    localAddrs := addresses d.localAddresses
    remoteAddrs := addresses d.remoteAddresses
    localAuth := some { auth := Enumeration.code localMethod, id := d.localAuth.id }
    remoteAuth := some { auth := Enumeration.code remoteMethod, id := d.remoteAuth.id }
    children := children
    proposals := proposals }

end Definition

/-- The reference scenario: one connection between two hosts with one child. -/
def Definition.reference : Definition where
  name := "opi-test"
  localAddresses := ["192.168.200.200"]
  remoteAddresses := ["192.168.200.210"]
  localAuth := ⟨"psk", "hacker@strongswan.org"⟩
  remoteAuth := ⟨"psk", "server.strongswan.org"⟩
  proposal := some ⟨["aes_cbc"], ["sha2_256_128"], ["curve25519"]⟩
  children := [{
    name := "opi-child"
    proposal := ⟨["aes_gcm_icv_16"], [], ["curve25519"]⟩
    localSelectors := ["10.3.0.0/16"]
    remoteSelectors := ["10.1.0.0/16"] }]

end IPsecControl.Tunnel
