import IPsecControl.Message.Basic

/-! Messages that install and remove static security associations. -/
namespace IPsecControl.Message
open Wire

/-- The identity of one directional security association on the device. -/
structure SaId where
  src : String := ""
  dst : String := ""
  spi : UInt32 := 0
  proto : Int32 := 0
  ifId : UInt32 := 0
  deriving DecidableEq, Repr, Inhabited

abbrev SaId.schema : Schema :=
  .scalar 1 "src" .text <|
  .scalar 2 "dst" .text <|
  .scalar 3 "spi" .word32 <|
  .scalar 4 "proto" .code <|
  .scalar 5 "if_id" .word32 <|
  .done

instance : Message SaId where
  name := "SaId"
  schema := SaId.schema
  toRecord m := (m.src, m.dst, m.spi, m.proto, m.ifId, ())
  ofRecord := fun (src, dst, spi, proto, ifId, ()) => ⟨src, dst, spi, proto, ifId⟩
  ofRecord_toRecord _ := rfl
  toRecord_ofRecord _ := rfl

/-- Keys, algorithms and flags of a static security association. -/
structure SaData where
  reqid : UInt32 := 0
  mode : Int32 := 0
  interface : String := ""
  encAlg : Int32 := 0
  encKey : Bytes := []
  intAlg : Int32 := 0
  intKey : Bytes := []
  replayWindow : UInt32 := 0
  tfc : UInt32 := 0
  encap : Bool := false
  esn : Bool := false
  copyDf : Bool := false
  copyEcn : Bool := false
  copyDscp : Bool := false
  initiator : Bool := false
  inbound : Bool := false
  update : Bool := false
  deriving DecidableEq, Repr, Inhabited

abbrev SaData.schema : Schema :=
  .scalar 1 "reqid" .word32 <|
  .scalar 2 "mode" .code <|
  .scalar 3 "interface" .text <|
  .scalar 4 "enc_alg" .code <|
  .scalar 5 "enc_key" .bytes <|
  .scalar 6 "int_alg" .code <|
  .scalar 7 "int_key" .bytes <|
  .scalar 8 "replay_window" .word32 <|
  .scalar 9 "tfc" .word32 <|
  .scalar 10 "encap" .flag <|
  .scalar 11 "esn" .flag <|
  .scalar 12 "copy_df" .flag <|
  .scalar 13 "copy_ecn" .flag <|
  .scalar 14 "copy_dscp" .flag <|
  .scalar 15 "initiator" .flag <|
  .scalar 16 "inbound" .flag <|
  .scalar 17 "update" .flag <|
  .done

instance : Message SaData where
  name := "SaData"
  schema := SaData.schema
  toRecord m :=
    (m.reqid, m.mode, m.interface, m.encAlg, m.encKey, m.intAlg, m.intKey, m.replayWindow, m.tfc,
     m.encap, m.esn, m.copyDf, m.copyEcn, m.copyDscp, m.initiator, m.inbound, m.update, ())
  ofRecord := fun
    | (reqid, mode, interface, encAlg, encKey, intAlg, intKey, replayWindow, tfc, encap, esn,
       copyDf, copyEcn, copyDscp, initiator, inbound, update, ()) =>
      ⟨reqid, mode, interface, encAlg, encKey, intAlg, intKey, replayWindow, tfc, encap, esn,
       copyDf, copyEcn, copyDscp, initiator, inbound, update⟩
  ofRecord_toRecord _ := rfl
  toRecord_ofRecord _ := rfl

structure AddSaRequest where
  saId : Option SaId := none
  saData : Option SaData := none
  deriving DecidableEq, Repr, Inhabited

abbrev AddSaRequest.schema : Schema :=
  .message 1 "sa_id" "SaId" SaId.schema <|
  .message 2 "sa_data" "SaData" SaData.schema <|
  .done

instance : Message AddSaRequest where
  name := "AddSaRequest"
  schema := AddSaRequest.schema
  toRecord m := (m.saId.map toRecord, m.saData.map toRecord, ())
  ofRecord := fun (saId, saData, ()) => ⟨saId.map ofRecord, saData.map ofRecord⟩
  ofRecord_toRecord m := by simp
  toRecord_ofRecord _ :=
    Prod.ext (option_toRecord_ofRecord _) <| Prod.ext (option_toRecord_ofRecord _) rfl

/-- Nothing but success. -/
structure AddSaResponse where
  deriving DecidableEq, Repr, Inhabited

abbrev AddSaResponse.schema : Schema :=
  .done

instance : Message AddSaResponse where
  name := "AddSaResponse"
  schema := AddSaResponse.schema
  toRecord _ := ()
  ofRecord _ := ⟨⟩
  ofRecord_toRecord _ := rfl
  toRecord_ofRecord _ := rfl

/-- Asks to delete a security association, by its identity only. -/
structure DeleteSaRequest where
  saId : Option SaId := none
  deriving DecidableEq, Repr, Inhabited

abbrev DeleteSaRequest.schema : Schema :=
  .message 1 "sa_id" "SaId" SaId.schema <|
  .done

instance : Message DeleteSaRequest where
  name := "DeleteSaRequest"
  schema := DeleteSaRequest.schema
  toRecord m := (m.saId.map toRecord, ())
  ofRecord := fun (saId, ()) => ⟨saId.map ofRecord⟩
  ofRecord_toRecord m := by simp
  toRecord_ofRecord _ := Prod.ext (option_toRecord_ofRecord _) rfl

/-- Nothing but success. -/
structure DeleteSaResponse where
  deriving DecidableEq, Repr, Inhabited

abbrev DeleteSaResponse.schema : Schema :=
  .done

instance : Message DeleteSaResponse where
  name := "DeleteSaResponse"
  schema := DeleteSaResponse.schema
  toRecord _ := ()
  ofRecord _ := ⟨⟩
  ofRecord_toRecord _ := rfl
  toRecord_ofRecord _ := rfl
end IPsecControl.Message
