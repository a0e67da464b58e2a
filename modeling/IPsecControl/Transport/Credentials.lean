import IPsecControl.Transport.Certificate
import IPsecControl.Transport.Pem
import IPsecControl.Transport.PrivateKey

/-! Credentials of a client: a certificate, and the private key to the key in it; and the
certificates of authorities, of which there need not be any. -/
namespace IPsecControl.Transport

def certificates (file : Bytes) : Except Pem.Failure (List Bytes) := do
  let sections ← (Pem.sections file).mapM id
  return (sections.filter (·.kind = .certificate)).map (·.content)

def firstKey? : List (Except Pem.Failure Pem.Section) → Option Pem.Section
  | [] | .error _ :: _ => none
  | .ok s :: rest => if s.kind ∈ [.key, .rsaKey, .ecKey] then some s else firstKey? rest

/-- Whether a certificate file, a key file and a file of authorities make credentials. Of the
certificates of the client, only the first is looked at. -/
def isUsable (cert key ca : Bytes) : Bool :=
  match certificates ca, certificates cert, firstKey? (Pem.sections key) with
  | .ok authorities, .ok (first :: _), some key =>
    authorities.all Certificate.isAuthority &&
      match Certificate.parse? first, PrivateKey.certified? key with
      | some certificate, some certified => certificate.key = certified
      | _, _ => false
  | _, _, _ => false

end IPsecControl.Transport
