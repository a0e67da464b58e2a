import IPsecControl.Control.Guard
import IPsecControl.Tunnel.Report

/-! Version and status of the daemon, asked for on a client of their own. -/
namespace IPsecControl.Tunnel
open Message

/-- Identity and live status of the daemon. -/
structure DaemonInfo where
  version : VersionResponse
  status : String
  deriving DecidableEq, Repr

/-- The time for both calls together. -/
def queryTimeout : Duration := .ofSeconds 1

/-- Asks for the version and then, if that succeeded, for the status. -/
def ask (guard : Guard) : Run (Result DaemonInfo) := do
  match ← guard.run Step.version.name (Run.send .version {}) with
  | .error e => return .error e
  | .ok version =>
    match ← guard.run Step.stats.name (Run.send .stats {}) with
    | .error e => return .error e
    | .ok stats => return .ok ⟨version, stats.status⟩

/-- Asks the daemon under one deadline; nobody cancels that. -/
def queryDaemon (timeout : Duration) : Run (Result DaemonInfo) := Run.uncancelled do
  match ← Run.openClient with
  | .error e => return .error e
  | .ok () =>
    let guard ← Guard.start timeout
    let result ← ask guard
    Run.closeClient
    return result

end IPsecControl.Tunnel
