import IPsecControl.Algorithm.Table
import IPsecControl.Message.StaticSa
import IPsecControl.Net.Address

/-! The identity of one directional security association. -/
namespace IPsecControl.Sa
open Net Message

structure Identifier where
  src : Address
  dst : Address
  spi : UInt32
  protocol : Protocol
  ifId : UInt32
  deriving DecidableEq, Repr

namespace Identifier
variable (id : Identifier)

/-- The index is not zero, the protocol is given, and both addresses are of one family. -/
def validate : Result Unit :=
  if id.spi = 0 then .error (.invalidConfig "spi" "must be non-zero")
  else if id.protocol = .unspecified then .error (.invalidConfig "proto" "must be esp or ah")
  else if id.src.family ≠ id.dst.family then
    .error (.invalidConfig "dst"
      (id.src.text ++ " and " ++ id.dst.text ++ " are different address families"))
  else .ok ()

def message : SaId where
  src := id.src.text
  dst := id.dst.text
  spi := id.spi
  proto := Enumeration.code id.protocol
  ifId := id.ifId

def protocolText : Protocol → String
  | .esp => "esp"
  | .ah => "ah"
  | .unspecified => "?"

/-- Eight hexadecimal digits after `0x`. -/
def spiText (spi : UInt32) : String :=
  "0x" ++ String.ofList (Text.zeroFill 8 (Text.hexDigits spi.toNat))

def text : String :=
  protocolText id.protocol ++ " " ++ id.src.text ++ "->" ++ id.dst.text ++ " spi " ++
    spiText id.spi ++ " if_id " ++ Text.decimal id.ifId.toNat

end Identifier
end IPsecControl.Sa
