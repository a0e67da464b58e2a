import IPsecControl.Error.Basic
import IPsecControl.Files.Reader
import IPsecControl.Json.Record
import IPsecControl.Tunnel.Definition

/-! Connection definitions as JSON documents. -/
namespace IPsecControl.Tunnel
open Json

abbrev Authentication.fields : Fields :=
  .leaf "method" (.text none) <|
  .leaf "id" (.text none) <|
  .done

abbrev Proposal.fields : Fields :=
  .leaf "crypto_algorithms" (.texts true) <|
  .leaf "integrity_algorithms" (.texts true) <|
  .leaf "dh_groups" (.texts true) <|
  .done

abbrev ChildDefinition.fields : Fields :=
  .leaf "name" (.text none) <|
  .record "esp_proposals" "ProposalSpec" Proposal.fields <|
  .leaf "local_traffic_selectors" (.texts true) <|
  .leaf "remote_traffic_selectors" (.texts true) <|
  .done

abbrev Definition.fields : Fields :=
  .leaf "name" (.text none) <|
  .leaf "version" (.text (some "2")) <|
  .leaf "virtual_ips" (.texts true) <|
  .leaf "local_addresses" (.texts false) <|
  .leaf "remote_addresses" (.texts false) <|
  .record "local_auth" "AuthSpec" Authentication.fields <|
  .record "remote_auth" "AuthSpec" Authentication.fields <|
  .recordOrNull "proposals" "ProposalSpec" Proposal.fields <|
  .records "children" "ChildSpec" ChildDefinition.fields <|
  .done

def Authentication.ofValues : Authentication.fields.Values → Authentication :=
  fun (method, id, ()) => { method, id }

def Authentication.values (a : Authentication) : Authentication.fields.Values :=
  (a.method, a.id, ())

def Proposal.ofValues : Proposal.fields.Values → Proposal :=
  fun (ciphers, integrities, groups, ()) => { ciphers, integrities, groups }

def Proposal.values (p : Proposal) : Proposal.fields.Values :=
  (p.ciphers, p.integrities, p.groups, ())

def ChildDefinition.ofValues : ChildDefinition.fields.Values → ChildDefinition :=
  fun (name, proposal, localSelectors, remoteSelectors, ()) =>
    { name, proposal := .ofValues proposal, localSelectors, remoteSelectors }

def ChildDefinition.values (c : ChildDefinition) : ChildDefinition.fields.Values :=
  (c.name, c.proposal.values, c.localSelectors, c.remoteSelectors, ())

def Definition.ofValues : Definition.fields.Values → Definition :=
  fun (name, version, virtualIps, localAddresses, remoteAddresses, localAuth, remoteAuth,
      proposal, children, ()) =>
    { name, version, virtualIps, localAddresses, remoteAddresses
      localAuth := .ofValues localAuth
      remoteAuth := .ofValues remoteAuth
      proposal := proposal.map .ofValues
      children := children.map .ofValues }

def Definition.values (d : Definition) : Definition.fields.Values :=
  (d.name, d.version, d.virtualIps, d.localAddresses, d.remoteAddresses, d.localAuth.values,
   d.remoteAuth.values, d.proposal.map Proposal.values, d.children.map ChildDefinition.values, ())

def documentText (bytes : Bytes) : String := String.ofList (Text.Utf8.lossy bytes)

/-- Reads a JSON text with the given fields; the error is the message of the failure. -/
def readDocument (fs : Fields) (name text : String) : Except String fs.Values :=
  let bytes := Text.Utf8.bytes text
  (fs.read name bytes).mapError (·.message bytes)

def Proposal.ofJson (text : String) : Except String Proposal :=
  (readDocument Proposal.fields "ProposalSpec" text).map .ofValues

def ChildDefinition.ofJson (text : String) : Except String ChildDefinition :=
  (readDocument ChildDefinition.fields "ChildSpec" text).map .ofValues

def Definition.ofJson (text : String) : Result Definition :=
  match readDocument Definition.fields "ConnectionSpec" text with
  | .ok values => .ok (.ofValues values)
  | .error message => .error (.invalidConfig "connection" message)

def Definition.load (files : Files.Reader) (path : Files.Path) : Result Definition :=
  match Files.readText files path with
  | .ok text => Definition.ofJson text
  | .error e => .error (.invalidConfig "conn-file" (path.display ++ ": " ++ e.message))

def Proposal.json (p : Proposal) : String := documentText (Proposal.fields.write p.values)

def ChildDefinition.json (c : ChildDefinition) : String :=
  documentText (ChildDefinition.fields.write c.values)

/-- A definition as compact JSON, with its fields in order. -/
def Definition.json (d : Definition) : String := documentText (Definition.fields.write d.values)

end IPsecControl.Tunnel
