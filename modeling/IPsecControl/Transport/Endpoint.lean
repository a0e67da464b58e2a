import IPsecControl.Files.Reader
import IPsecControl.Log.Line
import IPsecControl.Net.Address
import IPsecControl.Transport.Credentials
import IPsecControl.Transport.TlsFiles
import IPsecControl.Transport.Uri

/-! Where the control plane is, and how it is reached: in plain, or with mutual TLS. What is
wrong with the configuration is found before anything is sent. -/
namespace IPsecControl.Transport
open Text

structure Config where
  /-- A host with its port, or a URI. -/
  endpoint : String := "localhost:50151"
  tls : Option TlsFiles := none
  /-- Time for opening the channel. -/
  connectTimeout : Duration := .ofSeconds 10
  deriving DecidableEq, Repr

/-- A result, and what is logged on the way to it. -/
structure Attempt (α : Type) where
  notes : List Log.Line := []
  result : Result α

/-- Reads a file that may not be empty. -/
def readPart (files : Files.Reader) (path : Files.Path) : Result Bytes :=
  match files path with
  | .error e => .error (.tlsFile path.display e)
  | .ok [] => .error (.tlsSpec (path.display ++ " is empty"))
  | .ok bytes => .ok bytes

/-- Reads the three files, and tells whether they make credentials. -/
def TlsFiles.load (files : Files.Reader) (t : TlsFiles) : Result Bool := do
  let cert ← readPart files t.clientCert
  let key ← readPart files t.clientKey
  let ca ← readPart files t.caCert
  return isUsable cert key ca

/-- A name of a host: labels of letters, digits, hyphens and underscores, with dots between
them and perhaps behind them. The last label is not a number. -/
def isHostName (cs : List Char) : Bool :=
  let labels := split '.' cs
  let labels := if labels.getLast? = some [] then labels.dropLast else labels
  cs.length ≤ 253 && !labels.isEmpty && labels.all isLabel &&
    !(labels.getLast?.any (·.all Char.isDigit))
where
  isLabel (label : List Char) : Bool :=
    0 < label.length && label.length ≤ 63 && label.head? ≠ some '-' && label.getLast? ≠ some '-' &&
      label.all fun c => c.isAlphanum || c == '-' || c == '_'

/-- Whether a certificate can be asked of the host of a URI. -/
def isServerName (u : Uri) : Bool :=
  u.host?.any fun host => isHostName host || (Net.Address.parse? host).isSome

namespace Config
variable (c : Config)

/-- The endpoint as a URI; a scheme is put in front of one without. -/
def uri : String :=
  if (firstMatch? (literal? [':', '/', '/']) c.endpoint.toList).isSome then c.endpoint
  else if c.tls.isSome then "https://" ++ c.endpoint
  else "http://" ++ c.endpoint

def endpointField : Log.Field := Log.shown "endpoint" c.endpoint

def tlsField : Log.Field := Log.shown "tls" (if c.tls.isSome then "true" else "false")

/-- The URI, once it and the files are found to be good. -/
def resolve (files : Files.Reader) : Attempt Uri :=
  match Uri.parse? c.uri, c.tls with
  | none, _ => { result := .error (.invalidConfig "endpoint" (c.uri ++ ": invalid URI")) }
  | some uri, none => { result := .ok uri }
  | some uri, some t =>
    match t.load files with
    | .error e => { result := .error e }
    | .ok usable => {
        notes := [Log.info .transport "Loaded mTLS client credentials"
          [Log.shown "cert" t.clientCert.display, Log.shown "ca" t.caCert.display]]
        result :=
          if usable && isServerName uri then .ok uri
          else .error (.invalidConfig "tls" "transport error") }

/-- Opens a channel over a network, which tells the URIs that can be reached. -/
def connect (files : Files.Reader) (network : Uri → Bool) : Attempt Unit :=
  let resolved := c.resolve files
  match resolved.result with
  | .error e => { notes := resolved.notes, result := .error e }
  | .ok uri =>
    let notes := resolved.notes ++ [Log.debug .transport "Connecting" [c.endpointField, c.tlsField]]
    if network uri then {
      notes := notes ++ [Log.info .transport "Connected to control plane" [c.endpointField]]
      result := .ok () }
    else { notes, result := .error (.transport c.endpoint "transport error") }

end Config
end IPsecControl.Transport
