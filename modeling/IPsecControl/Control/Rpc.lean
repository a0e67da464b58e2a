import IPsecControl.Message.Connection
import IPsecControl.Message.Daemon
import IPsecControl.Message.Listing
import IPsecControl.Message.Negotiation
import IPsecControl.Message.StaticSa

/-! The remote procedures of the control plane, their messages and their paths. -/
namespace IPsecControl
open Message

inductive Rpc where
  | addSa
  | deleteSa
  | version
  | stats
  | loadConn
  | initiate
  | listSas
  | listConns
  | listCerts
  | rekey
  | terminate
  | unloadConn
  deriving DecidableEq, Repr

namespace Rpc

def all : List Rpc :=
  [.addSa, .deleteSa, .version, .stats, .loadConn, .initiate, .listSas, .listConns, .listCerts,
   .rekey, .terminate, .unloadConn]

def name : Rpc → String
  | .addSa => "AddSA"
  | .deleteSa => "DeleteSA"
  | .version => "IPsecVersion"
  | .stats => "IPsecStats"
  | .loadConn => "IPsecLoadConn"
  | .initiate => "IPsecInitiate"
  | .listSas => "IPsecListSas"
  | .listConns => "IPsecListConns"
  | .listCerts => "IPsecListCerts"
  | .rekey => "IPsecRekey"
  | .terminate => "IPsecTerminate"
  | .unloadConn => "IPsecUnloadConn"

def ofName? (name : String) : Option Rpc := all.find? (·.name == name)

def service : String := "opi_api.security.v1.IPsec"

/-- Where a procedure is found on the control plane. -/
def path (r : Rpc) : String := "/" ++ service ++ "/" ++ r.name

/-- What a procedure is called with. -/
abbrev Request : Rpc → Type
  | .addSa => AddSaRequest
  | .deleteSa => DeleteSaRequest
  | .version => VersionRequest
  | .stats => StatsRequest
  | .loadConn => LoadConnRequest
  | .initiate => InitiateRequest
  | .listSas => ListSasRequest
  | .listConns => ListConnsRequest
  | .listCerts => ListCertsRequest
  | .rekey => RekeyRequest
  | .terminate => TerminateRequest
  | .unloadConn => UnloadConnRequest

abbrev Response : Rpc → Type
  | .addSa => AddSaResponse
  | .deleteSa => DeleteSaResponse
  | .version => VersionResponse
  | .stats => StatsResponse
  | .loadConn => LoadConnResponse
  | .initiate => InitiateResponse
  | .listSas => ListSasResponse
  | .listConns => ListConnsResponse
  | .listCerts => ListCertsResponse
  | .rekey => RekeyResponse
  | .terminate => TerminateResponse
  | .unloadConn => UnloadConnResponse

instance instMessageRequest : (r : Rpc) → Message r.Request
  | .addSa => inferInstanceAs (Message AddSaRequest)
  | .deleteSa => inferInstanceAs (Message DeleteSaRequest)
  | .version => inferInstanceAs (Message VersionRequest)
  | .stats => inferInstanceAs (Message StatsRequest)
  | .loadConn => inferInstanceAs (Message LoadConnRequest)
  | .initiate => inferInstanceAs (Message InitiateRequest)
  | .listSas => inferInstanceAs (Message ListSasRequest)
  | .listConns => inferInstanceAs (Message ListConnsRequest)
  | .listCerts => inferInstanceAs (Message ListCertsRequest)
  | .rekey => inferInstanceAs (Message RekeyRequest)
  | .terminate => inferInstanceAs (Message TerminateRequest)
  | .unloadConn => inferInstanceAs (Message UnloadConnRequest)

instance instMessageResponse : (r : Rpc) → Message r.Response
  | .addSa => inferInstanceAs (Message AddSaResponse)
  | .deleteSa => inferInstanceAs (Message DeleteSaResponse)
  | .version => inferInstanceAs (Message VersionResponse)
  | .stats => inferInstanceAs (Message StatsResponse)
  | .loadConn => inferInstanceAs (Message LoadConnResponse)
  | .initiate => inferInstanceAs (Message InitiateResponse)
  | .listSas => inferInstanceAs (Message ListSasResponse)
  | .listConns => inferInstanceAs (Message ListConnsResponse)
  | .listCerts => inferInstanceAs (Message ListCertsResponse)
  | .rekey => inferInstanceAs (Message RekeyResponse)
  | .terminate => inferInstanceAs (Message TerminateResponse)
  | .unloadConn => inferInstanceAs (Message UnloadConnResponse)

instance instDecidableEqRequest : (r : Rpc) → DecidableEq r.Request
  | .addSa => inferInstanceAs (DecidableEq AddSaRequest)
  | .deleteSa => inferInstanceAs (DecidableEq DeleteSaRequest)
  | .version => inferInstanceAs (DecidableEq VersionRequest)
  | .stats => inferInstanceAs (DecidableEq StatsRequest)
  | .loadConn => inferInstanceAs (DecidableEq LoadConnRequest)
  | .initiate => inferInstanceAs (DecidableEq InitiateRequest)
  | .listSas => inferInstanceAs (DecidableEq ListSasRequest)
  | .listConns => inferInstanceAs (DecidableEq ListConnsRequest)
  | .listCerts => inferInstanceAs (DecidableEq ListCertsRequest)
  | .rekey => inferInstanceAs (DecidableEq RekeyRequest)
  | .terminate => inferInstanceAs (DecidableEq TerminateRequest)
  | .unloadConn => inferInstanceAs (DecidableEq UnloadConnRequest)

end Rpc

structure Call where
  rpc : Rpc
  request : rpc.Request
  deriving DecidableEq

def Call.bytes (c : Call) : Wire.Bytes := Message.encode c.request

end IPsecControl
