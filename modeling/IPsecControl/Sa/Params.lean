import IPsecControl.Algorithm.Table
import IPsecControl.Message.StaticSa
import IPsecControl.Text.Quoted

/-! Keys, algorithms and flags of a static security association. Algorithms are
given by name; the codes on the wire come from the name tables. -/
namespace IPsecControl.Sa
open Message Wire

structure Flags where
  encap : Bool := false
  esn : Bool := false
  copyDf : Bool := false
  copyEcn : Bool := false
  copyDscp : Bool := false
  initiator : Bool := false
  inbound : Bool := false
  update : Bool := false
  deriving DecidableEq, Repr

structure Params where
  reqid : UInt32 := 0
  mode : String := "tunnel"
  interface : String := ""
  encAlg : String := "null"
  encKey : Bytes := []
  intAlg : String := "none"
  intKey : Bytes := []
  replayWindow : UInt32 := 32
  tfc : UInt32 := 0
  flags : Flags := {}
  deriving DecidableEq, Repr

def Flags.description (f : Flags) : String :=
  let shown (name : String) (b : Bool) := name ++ ": " ++ (if b then "true" else "false")
  "SaFlags \x7b " ++ ", ".intercalate [
    shown "encap" f.encap, shown "esn" f.esn, shown "copy_df" f.copyDf,
    shown "copy_ecn" f.copyEcn, shown "copy_dscp" f.copyDscp, shown "initiator" f.initiator,
    shown "inbound" f.inbound, shown "update" f.update] ++ " \x7d"

/-- What diagnostics show of a key: its length only. -/
def keyLength (key : Bytes) : String := "<" ++ Text.decimal key.length ++ " bytes>"

namespace Params
variable (p : Params)

/-- The parameters as diagnostics show them, without the keys. -/
def description : String :=
  "SaParams \x7b " ++ ", ".intercalate [
    "reqid: " ++ Text.decimal p.reqid.toNat,
    "mode: " ++ Text.quoted p.mode,
    "interface: " ++ Text.quoted p.interface,
    "enc_alg: " ++ Text.quoted p.encAlg,
    "enc_key: " ++ keyLength p.encKey,
    "int_alg: " ++ Text.quoted p.intAlg,
    "int_key: " ++ keyLength p.intKey,
    "replay_window: " ++ Text.decimal p.replayWindow.toNat,
    "tfc: " ++ Text.decimal p.tfc.toNat,
    "flags: " ++ p.flags.description] ++ " \x7d"

/-- The parameters as they go on the wire: names are looked up in the order mode,
cipher, integrity, and then each algorithm that needs a key must have one. -/
def message : Result SaData := do
  let mode ← Algorithm.modes.lookup p.mode
  let cipher ← Algorithm.ciphers.lookup p.encAlg
  let integrity ← Algorithm.integrities.lookup p.intAlg
  if Algorithm.cipherNeedsKey cipher && p.encKey.isEmpty then
    .error (.invalidConfig "enc_key" (p.encAlg ++ " requires a key"))
  else if Algorithm.integrityNeedsKey integrity && p.intKey.isEmpty then
    .error (.invalidConfig "int_key" (p.intAlg ++ " requires a key"))
  else
    .ok {
      reqid := p.reqid
      mode := Enumeration.code mode
      interface := p.interface
      encAlg := Enumeration.code cipher
      encKey := p.encKey
      intAlg := Enumeration.code integrity
      intKey := p.intKey
      replayWindow := p.replayWindow
      tfc := p.tfc
      encap := p.flags.encap
      esn := p.flags.esn
      copyDf := p.flags.copyDf
      copyEcn := p.flags.copyEcn
      copyDscp := p.flags.copyDscp
      initiator := p.flags.initiator
      inbound := p.flags.inbound
      update := p.flags.update }

end Params
end IPsecControl.Sa
