import IPsecControl.Time.Duration
import IPsecControl.Tunnel.Definition

/-! What one run of the tunnel lifecycle exercises. -/
namespace IPsecControl.Tunnel
open Message

structure Config where
  definition : Definition := .reference
  /-- The child that is negotiated; one of the definition's children. -/
  child : String := "opi-child"
  /-- The address probed across the tunnel. -/
  probeTarget : String := "10.1.0.2"
  /-- Time for everything up to rekeying. -/
  timeout : Duration := .ofSeconds 30
  /-- Time for each cleanup call. -/
  cleanupTimeout : Duration := .ofSeconds 5
  /-- The type of the certificates listed. -/
  certType : String := "X509"
  /-- Failed listings are logged, as long as one succeeds. -/
  advisoryIntrospection : Bool := false
  deriving DecidableEq, Repr

namespace Config
variable (config : Config)

def connection : String := config.definition.name

/-- The request that loads the connection, if every name in it is known. -/
def loadRequest : Result LoadConnRequest := do
  if (config.definition.child? config.child).isNone then
    .error (.invalidConfig "child"
      ("connection '" ++ config.connection ++ "' has no child '" ++ config.child ++ "'"))
  else
    let connection ← config.definition.message
    return { connection := some connection }

end Config
end IPsecControl.Tunnel
