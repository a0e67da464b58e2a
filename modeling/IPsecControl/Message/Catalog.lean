import IPsecControl.Message.Daemon
import IPsecControl.Message.Negotiation
import IPsecControl.Message.Listing
import IPsecControl.Message.Reading

/-! Every message type of the control plane, by name. -/
namespace IPsecControl.Message
open Wire

/-- A message type as its name and schema. -/
structure Descriptor where
  name : String
  schema : Schema

def descriptor (α : Type) [Message α] : Descriptor := ⟨name α, schema α⟩

def catalog : List Descriptor := [
  descriptor SaId, descriptor SaData, descriptor AddSaRequest, descriptor AddSaResponse,
  descriptor DeleteSaRequest, descriptor DeleteSaResponse, descriptor VersionRequest,
  descriptor VersionResponse, descriptor StatsRequest, descriptor StatsResponse, descriptor Addrs,
  descriptor LocalAuth, descriptor RemoteAuth, descriptor Proposals, descriptor TrafficSelector,
  descriptor TrafficSelectors, descriptor Child, descriptor Connection, descriptor LoadConnRequest,
  descriptor LoadConnResponse, descriptor UnloadConnRequest, descriptor UnloadConnResponse,
  descriptor InitiateRequest, descriptor InitiateResponse, descriptor TerminateRequest,
  descriptor TerminateResponse, descriptor RekeyRequest, descriptor RekeyResponse,
  descriptor ListSasRequest, descriptor ListChildSa, descriptor ListIkeSa,
  descriptor ListSasResponse, descriptor ListConnsRequest, descriptor ListChild,
  descriptor ListConnResp, descriptor ListConnsResponse, descriptor ListCertsRequest,
  descriptor ListCert, descriptor ListCertsResponse]

def find? (name : String) : Option Descriptor := catalog.find? (·.name == name)

end IPsecControl.Message
