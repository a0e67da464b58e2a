/-! Enumerations of the control-plane messages. Algorithm and group codes are the
transform identifiers of IKEv2. A message carries a raw code; a code without a
meaning reads as the first member of its enumeration. -/
namespace IPsecControl.Message

/-- A finite set of codes, each with the name of its meaning. -/
class Enumeration (α : Type) extends Inhabited α where
  all : List α
  code : α → Int32
  label : α → String

namespace Enumeration
variable {α : Type} [Enumeration α]

/-- The meaning of a code. -/
def ofCode? (c : Int32) : Option α := (all : List α).find? fun a => code a == c

/-- The meaning of a code, or the first member where it has none. -/
def ofCode (c : Int32) : α := (ofCode? c).getD default

/-- The meanings of a list of codes; codes without one are left out. -/
def known (cs : List Int32) : List α := cs.filterMap ofCode?

end Enumeration

/-- Security protocols, by their IP protocol numbers. -/
inductive Protocol where
  | unspecified
  | esp
  | ah
  deriving DecidableEq, Repr

instance : Enumeration Protocol where
  default := .unspecified
  all := [.unspecified, .esp, .ah]
  code
    | .unspecified => 0
    | .esp => 50
    | .ah => 51
  label
    | .unspecified => "Unspecified"
    | .esp => "Esp"
    | .ah => "Ah"

inductive Mode where
  | unspecified
  | transport
  | tunnel
  | beet
  | pass
  | drop
  deriving DecidableEq, Repr

instance : Enumeration Mode where
  default := .unspecified
  all := [.unspecified, .transport, .tunnel, .beet, .pass, .drop]
  code
    | .unspecified => 0
    | .transport => 1
    | .tunnel => 2
    | .beet => 3
    | .pass => 4
    | .drop => 5
  label
    | .unspecified => "Unspecified"
    | .transport => "Transport"
    | .tunnel => "Tunnel"
    | .beet => "Beet"
    | .pass => "Pass"
    | .drop => "Drop"

inductive Cipher where
  | unspecified
  | des
  | tripleDes
  | cast
  | blowfish
  | null
  | aesCbc
  | aesCtr
  | aesCcm8
  | aesCcm12
  | aesCcm16
  | aesGcm8
  | aesGcm12
  | aesGcm16
  | nullAuthAesGmac
  | camelliaCbc
  | camelliaCtr
  | camelliaCcm8
  | camelliaCcm12
  | camelliaCcm16
  | chacha20Poly1305
  deriving DecidableEq, Repr

instance : Enumeration Cipher where
  default := .unspecified
  all := [.unspecified, .des, .tripleDes, .cast, .blowfish, .null, .aesCbc, .aesCtr, .aesCcm8,
    .aesCcm12, .aesCcm16, .aesGcm8, .aesGcm12, .aesGcm16, .nullAuthAesGmac, .camelliaCbc,
    .camelliaCtr, .camelliaCcm8, .camelliaCcm12, .camelliaCcm16, .chacha20Poly1305]
  code
    | .unspecified => 0
    | .des => 2
    | .tripleDes => 3
    | .cast => 6
    | .blowfish => 7
    | .null => 11
    | .aesCbc => 12
    | .aesCtr => 13
    | .aesCcm8 => 14
    | .aesCcm12 => 15
    | .aesCcm16 => 16
    | .aesGcm8 => 18
    | .aesGcm12 => 19
    | .aesGcm16 => 20
    | .nullAuthAesGmac => 21
    | .camelliaCbc => 23
    | .camelliaCtr => 24
    | .camelliaCcm8 => 25
    | .camelliaCcm12 => 26
    | .camelliaCcm16 => 27
    | .chacha20Poly1305 => 28
  label
    | .unspecified => "Unspecified"
    | .des => "Des"
    | .tripleDes => "TripleDes"
    | .cast => "Cast"
    | .blowfish => "Blowfish"
    | .null => "Null"
    | .aesCbc => "AesCbc"
    | .aesCtr => "AesCtr"
    | .aesCcm8 => "AesCcm8"
    | .aesCcm12 => "AesCcm12"
    | .aesCcm16 => "AesCcm16"
    | .aesGcm8 => "AesGcm8"
    | .aesGcm12 => "AesGcm12"
    | .aesGcm16 => "AesGcm16"
    | .nullAuthAesGmac => "NullAuthAesGmac"
    | .camelliaCbc => "CamelliaCbc"
    | .camelliaCtr => "CamelliaCtr"
    | .camelliaCcm8 => "CamelliaCcm8"
    | .camelliaCcm12 => "CamelliaCcm12"
    | .camelliaCcm16 => "CamelliaCcm16"
    | .chacha20Poly1305 => "Chacha20Poly1305"

inductive Integrity where
  | none
  | hmacMd5x96
  | hmacSha1x96
  | aesXcbc96
  | hmacMd5x128
  | hmacSha1x160
  | aesCmac96
  | aes128Gmac
  | aes192Gmac
  | aes256Gmac
  | hmacSha2x256x128
  | hmacSha2x384x192
  | hmacSha2x512x256
  deriving DecidableEq, Repr

instance : Enumeration Integrity where
  default := .none
  all := [.none, .hmacMd5x96, .hmacSha1x96, .aesXcbc96, .hmacMd5x128, .hmacSha1x160, .aesCmac96,
    .aes128Gmac, .aes192Gmac, .aes256Gmac, .hmacSha2x256x128, .hmacSha2x384x192, .hmacSha2x512x256]
  code
    | .none => 0
    | .hmacMd5x96 => 1
    | .hmacSha1x96 => 2
    | .aesXcbc96 => 5
    | .hmacMd5x128 => 6
    | .hmacSha1x160 => 7
    | .aesCmac96 => 8
    | .aes128Gmac => 9
    | .aes192Gmac => 10
    | .aes256Gmac => 11
    | .hmacSha2x256x128 => 12
    | .hmacSha2x384x192 => 13
    | .hmacSha2x512x256 => 14
  label
    | .none => "None"
    | .hmacMd5x96 => "HmacMd5_96"
    | .hmacSha1x96 => "HmacSha1_96"
    | .aesXcbc96 => "AesXcbc96"
    | .hmacMd5x128 => "HmacMd5_128"
    | .hmacSha1x160 => "HmacSha1_160"
    | .aesCmac96 => "AesCmac96"
    | .aes128Gmac => "Aes128Gmac"
    | .aes192Gmac => "Aes192Gmac"
    | .aes256Gmac => "Aes256Gmac"
    | .hmacSha2x256x128 => "HmacSha2_256_128"
    | .hmacSha2x384x192 => "HmacSha2_384_192"
    | .hmacSha2x512x256 => "HmacSha2_512_256"

inductive DhGroup where
  | none
  | modp768
  | modp1024
  | modp1536
  | modp2048
  | modp3072
  | modp4096
  | modp6144
  | modp8192
  | ecp256
  | ecp384
  | ecp521
  | curve25519
  | curve448
  deriving DecidableEq, Repr

instance : Enumeration DhGroup where
  default := .none
  all := [.none, .modp768, .modp1024, .modp1536, .modp2048, .modp3072, .modp4096, .modp6144,
    .modp8192, .ecp256, .ecp384, .ecp521, .curve25519, .curve448]
  code
    | .none => 0
    | .modp768 => 1
    | .modp1024 => 2
    | .modp1536 => 5
    | .modp2048 => 14
    | .modp3072 => 15
    | .modp4096 => 16
    | .modp6144 => 17
    | .modp8192 => 18
    | .ecp256 => 19
    | .ecp384 => 20
    | .ecp521 => 21
    | .curve25519 => 31
    | .curve448 => 32
  label
    | .none => "None"
    | .modp768 => "Modp768"
    | .modp1024 => "Modp1024"
    | .modp1536 => "Modp1536"
    | .modp2048 => "Modp2048"
    | .modp3072 => "Modp3072"
    | .modp4096 => "Modp4096"
    | .modp6144 => "Modp6144"
    | .modp8192 => "Modp8192"
    | .ecp256 => "Ecp256"
    | .ecp384 => "Ecp384"
    | .ecp521 => "Ecp521"
    | .curve25519 => "Curve25519"
    | .curve448 => "Curve448"

inductive AuthMethod where
  | unspecified
  | pubkey
  | psk
  | xauth
  | eap
  deriving DecidableEq, Repr

instance : Enumeration AuthMethod where
  default := .unspecified
  all := [.unspecified, .pubkey, .psk, .xauth, .eap]
  code
    | .unspecified => 0
    | .pubkey => 1
    | .psk => 2
    | .xauth => 3
    | .eap => 4
  label
    | .unspecified => "Unspecified"
    | .pubkey => "Pubkey"
    | .psk => "Psk"
    | .xauth => "Xauth"
    | .eap => "Eap"

end IPsecControl.Message
