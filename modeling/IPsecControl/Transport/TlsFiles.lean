import IPsecControl.Error.Basic
import IPsecControl.Files.Path
import IPsecControl.Text.Blank
import IPsecControl.Text.Split

/-! The files for mutual TLS, written with colons between their paths. -/
namespace IPsecControl.Transport
open Text

structure TlsFiles where
  clientCert : Files.Path
  clientKey : Files.Path
  caCert : Files.Path
  deriving DecidableEq, Repr

namespace TlsFiles

def text (t : TlsFiles) : String :=
  t.clientCert.display ++ ":" ++ t.clientKey.display ++ ":" ++ t.caCert.display

/-- A path with a character that is not blank. -/
def isPath (cs : List Char) : Bool := !cs.all isBlank

def parse (spec : String) : Result TlsFiles :=
  match split ':' spec.toList with
  | [cert, key, ca] =>
    if !isPath cert then .error (.tlsSpec "client_cert is empty")
    else if !isPath key then .error (.tlsSpec "client_key is empty")
    else if !isPath ca then .error (.tlsSpec "ca_cert is empty")
    else .ok ⟨.ofText (.ofList cert), .ofText (.ofList key), .ofText (.ofList ca)⟩
  | parts =>
    .error (.tlsSpec ("expected 'client_cert:client_key:ca_cert', got " ++ decimal parts.length ++
      " component(s) in '" ++ spec ++ "'"))

end TlsFiles
end IPsecControl.Transport
