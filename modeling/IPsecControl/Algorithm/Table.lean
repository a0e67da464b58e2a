import IPsecControl.Error.Basic
import IPsecControl.Message.Code
import IPsecControl.Text.Blank

/-! Names of algorithms, modes, protocols and authentication methods. A name is
looked up without surrounding blanks and letter case; what a table does not name is
an error and never stands for anything. The first name of a code is canonical. -/
namespace IPsecControl
open Message

/-- Names and what they stand for; `kind` tells which names they are. -/
structure NameTable (α : Type) where
  kind : String
  entries : List (String × α)

namespace NameTable
variable {α : Type} (table : NameTable α)

/-- The form in which names are compared. -/
def normalize (name : String) : String :=
  String.ofList ((Text.trim name.toList).map Text.lowerAscii)

def find? (name : String) : Option α :=
  (table.entries.find? fun (n, _) => n == normalize name).map (·.2)

def lookup (name : String) : Result α :=
  match table.find? name with
  | some code => .ok code
  | none => .error (.unknownName table.kind name)

/-- Looks up every name, up to the first that is unknown. -/
def lookupAll (names : List String) : Result (List α) := names.mapM table.lookup

def names : List String := table.entries.map (·.1)

/-- The first name that stands for a code. -/
def canonical? [DecidableEq α] (code : α) : Option String :=
  (table.entries.find? fun (_, c) => c = code).map (·.1)

end NameTable

namespace Algorithm

def ciphers : NameTable Cipher where
  kind := "encryption"
  entries := [
    ("null", .null), ("des", .des), ("3des", .tripleDes), ("cast128", .cast),
    ("blowfish", .blowfish), ("aes_cbc", .aesCbc), ("aes_ctr", .aesCtr),
    ("aes_ccm_icv_8", .aesCcm8), ("aes_ccm_icv_12", .aesCcm12), ("aes_ccm_icv_16", .aesCcm16),
    ("aes_gcm_icv_8", .aesGcm8), ("aes_gcm_icv_12", .aesGcm12), ("aes_gcm_icv_16", .aesGcm16),
    ("null_aes_gmac", .nullAuthAesGmac), ("camellia_cbc", .camelliaCbc),
    ("camellia_ctr", .camelliaCtr), ("camellia_ccm_icv_8", .camelliaCcm8),
    ("camellia_ccm_icv_12", .camelliaCcm12), ("camellia_ccm_icv_16", .camelliaCcm16),
    ("chacha20_poly1305", .chacha20Poly1305)]

/-- Integrity transforms by name. `sha2_256` is the 512-bit transform; the 256-bit one is
`sha2_256_128`. -/
def integrities : NameTable Integrity where
  kind := "integrity"
  entries := [
    ("none", .none), ("md5_96", .hmacMd5x96), ("md5_128", .hmacMd5x128), ("sha1_96", .hmacSha1x96),
    ("sha1_160", .hmacSha1x160), ("aes_xcbc_96", .aesXcbc96), ("aes_cmac_96", .aesCmac96),
    ("aes_128_gmac", .aes128Gmac), ("aes_192_gmac", .aes192Gmac), ("aes_256_gmac", .aes256Gmac),
    ("sha2_256_128", .hmacSha2x256x128), ("sha2_384", .hmacSha2x384x192),
    ("sha2_512", .hmacSha2x512x256), ("sha2_256", .hmacSha2x512x256)]

def groups : NameTable DhGroup where
  kind := "dh group"
  entries := [
    ("none", .none), ("modp768", .modp768), ("modp1024", .modp1024), ("modp1536", .modp1536),
    ("modp2048", .modp2048), ("modp3072", .modp3072), ("modp4096", .modp4096),
    ("modp6144", .modp6144), ("modp8192", .modp8192), ("ecp256", .ecp256), ("ecp384", .ecp384),
    ("ecp521", .ecp521), ("curve25519", .curve25519), ("x25519", .curve25519),
    ("curve448", .curve448), ("x448", .curve448)]

def modes : NameTable Mode where
  kind := "mode"
  entries := [
    ("tunnel", .tunnel), ("transport", .transport), ("beet", .beet), ("pass", .pass),
    ("drop", .drop)]

def protocols : NameTable Protocol where
  kind := "protocol"
  entries := [
    ("esp", .esp), ("ah", .ah)]

def authMethods : NameTable AuthMethod where
  kind := "authentication"
  entries := [
    ("psk", .psk), ("pubkey", .pubkey), ("xauth", .xauth), ("eap", .eap)]

/-- Every cipher but the null cipher takes a key. -/
def cipherNeedsKey : Cipher → Bool
  | .null | .unspecified => false
  | _ => true

/-- Every integrity transform but none takes a key. -/
def integrityNeedsKey : Integrity → Bool
  | .none => false
  | _ => true

end Algorithm
end IPsecControl
