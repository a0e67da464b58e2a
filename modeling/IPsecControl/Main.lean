import IPsecControl.CommandLine.Program

/-! The program itself. It reads the files that a command line names, runs it and writes what
comes out. It has no network and starts no process of its own: every endpoint is out of reach. -/
namespace IPsecControl.Main
open CommandLine

/-- The number behind a failure of the system, whose sign does not matter; that of an input or
output error, if there is none. -/
def systemError : IO.Error → SystemError
  | .noFileOrDirectory _ n _ | .permissionDenied _ n _ | .inappropriateType _ n _ =>
    .numbered (Nat.min n.toNat (-n).toNat)
  | _ => .numbered 5

def readFile (path : Files.Path) : IO (Except SystemError (List UInt8)) := do
  try
    return .ok (← IO.FS.readBinFile path.display).data.toList
  catch e => return .error (systemError e)

def readFiles (args : List String) : IO Files.Reader := do
  let paths := match Invocation.parse args with
    | .ok i => i.paths
    | .error _ => []
  let contents ← paths.mapM fun path => do return (path, ← readFile path)
  return fun path => (contents.lookup path).getD (.error .notFound)

def write : Written → IO Unit
  | .printed text => IO.println text
  | .complained text => IO.eprint text
  | .logged line => IO.println line.terminalText

end IPsecControl.Main

open IPsecControl in
def main (args : List String) : IO UInt32 := do
  let outcome := CommandLine.run {
    plane := { network := fun _ => false }
    files := ← Main.readFiles args
    machine := { host := fun _ => none }
    logFilter := ← IO.getEnv "RUST_LOG"
    now := ⟨← IO.monoNanosNow⟩ } args
  outcome.written.forM Main.write
  return UInt32.ofNat outcome.exitCode
