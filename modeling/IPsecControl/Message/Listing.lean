import IPsecControl.Message.Basic

/-! Messages that list what the daemon holds. -/
namespace IPsecControl.Message
open Wire

structure ListSasRequest where
  noblock : String := ""
  ike : String := ""
  ikeId : UInt64 := 0
  child : String := ""
  childId : UInt64 := 0
  deriving DecidableEq, Repr, Inhabited

abbrev ListSasRequest.schema : Schema :=
  .scalar 1 "noblock" .text <|
  .scalar 2 "ike" .text <|
  .scalar 3 "ike_id" .word64 <|
  .scalar 4 "child" .text <|
  .scalar 5 "child_id" .word64 <|
  .done

instance : Message ListSasRequest where
  name := "IPsecListSasRequest"
  schema := ListSasRequest.schema
  toRecord m := (m.noblock, m.ike, m.ikeId, m.child, m.childId, ())
  ofRecord := fun (noblock, ike, ikeId, child, childId, ()) => ⟨noblock, ike, ikeId, child, childId⟩
  ofRecord_toRecord _ := rfl
  toRecord_ofRecord _ := rfl

structure ListChildSa where
  name : String := ""
  protocol : String := ""
  encap : String := ""
  spiIn : String := ""
  spiOut : String := ""
  mode : String := ""
  state : String := ""
  encrAlg : String := ""
  integAlg : String := ""
  bytesIn : String := ""
  bytesOut : String := ""
  packetsIn : String := ""
  packetsOut : String := ""
  localTs : List String := []
  remoteTs : List String := []
  deriving DecidableEq, Repr, Inhabited

abbrev ListChildSa.schema : Schema :=
  .scalar 1 "name" .text <|
  .scalar 2 "protocol" .text <|
  .scalar 3 "encap" .text <|
  .scalar 4 "spi_in" .text <|
  .scalar 5 "spi_out" .text <|
  .scalar 6 "mode" .text <|
  .scalar 7 "state" .text <|
  .scalar 8 "encr_alg" .text <|
  .scalar 9 "integ_alg" .text <|
  .scalar 10 "bytes_in" .text <|
  .scalar 11 "bytes_out" .text <|
  .scalar 12 "packets_in" .text <|
  .scalar 13 "packets_out" .text <|
  .scalar 14 "local_ts" .texts <|
  .scalar 15 "remote_ts" .texts <|
  .done

instance : Message ListChildSa where
  name := "ListChildSa"
  schema := ListChildSa.schema
  toRecord m :=
    (m.name, m.protocol, m.encap, m.spiIn, m.spiOut, m.mode, m.state, m.encrAlg, m.integAlg,
     m.bytesIn, m.bytesOut, m.packetsIn, m.packetsOut, m.localTs, m.remoteTs, ())
  ofRecord := fun
    | (name, protocol, encap, spiIn, spiOut, mode, state, encrAlg, integAlg, bytesIn, bytesOut,
       packetsIn, packetsOut, localTs, remoteTs, ()) =>
      ⟨name, protocol, encap, spiIn, spiOut, mode, state, encrAlg, integAlg, bytesIn, bytesOut,
       packetsIn, packetsOut, localTs, remoteTs⟩
  ofRecord_toRecord _ := rfl
  toRecord_ofRecord _ := rfl

structure ListIkeSa where
  name : String := ""
  uniqueid : String := ""
  version : String := ""
  ikestate : String := ""
  localHost : String := ""
  localId : String := ""
  remoteHost : String := ""
  remoteId : String := ""
  encrAlg : String := ""
  integAlg : String := ""
  dhGroup : String := ""
  established : String := ""
  rekeyTime : String := ""
  childsas : List ListChildSa := []
  deriving DecidableEq, Repr, Inhabited

abbrev ListIkeSa.schema : Schema :=
  .scalar 1 "name" .text <|
  .scalar 2 "uniqueid" .text <|
  .scalar 3 "version" .text <|
  .scalar 4 "ikestate" .text <|
  .scalar 5 "local_host" .text <|
  .scalar 6 "local_id" .text <|
  .scalar 7 "remote_host" .text <|
  .scalar 8 "remote_id" .text <|
  .scalar 9 "encr_alg" .text <|
  .scalar 10 "integ_alg" .text <|
  .scalar 11 "dh_group" .text <|
  .scalar 12 "established" .text <|
  .scalar 13 "rekey_time" .text <|
  .messages 14 "childsas" "ListChildSa" ListChildSa.schema <|
  .done

instance : Message ListIkeSa where
  name := "ListIkeSa"
  schema := ListIkeSa.schema
  toRecord m :=
    (m.name, m.uniqueid, m.version, m.ikestate, m.localHost, m.localId, m.remoteHost, m.remoteId,
     m.encrAlg, m.integAlg, m.dhGroup, m.established, m.rekeyTime, m.childsas.map toRecord, ())
  ofRecord := fun
    | (name, uniqueid, version, ikestate, localHost, localId, remoteHost, remoteId, encrAlg,
       integAlg, dhGroup, established, rekeyTime, childsas, ()) =>
      ⟨name, uniqueid, version, ikestate, localHost, localId, remoteHost, remoteId, encrAlg,
       integAlg, dhGroup, established, rekeyTime, childsas.map ofRecord⟩
  ofRecord_toRecord m := by simp
  toRecord_ofRecord _ :=
    Prod.ext rfl <| Prod.ext rfl <| Prod.ext rfl <| Prod.ext rfl <| Prod.ext rfl <| Prod.ext rfl <|
    Prod.ext rfl <| Prod.ext rfl <| Prod.ext rfl <| Prod.ext rfl <| Prod.ext rfl <| Prod.ext rfl <|
    Prod.ext rfl <| Prod.ext (list_toRecord_ofRecord _) rfl

structure ListSasResponse where
  ikesas : List ListIkeSa := []
  deriving DecidableEq, Repr, Inhabited

abbrev ListSasResponse.schema : Schema :=
  .messages 1 "ikesas" "ListIkeSa" ListIkeSa.schema <|
  .done

instance : Message ListSasResponse where
  name := "IPsecListSasResponse"
  schema := ListSasResponse.schema
  toRecord m := (m.ikesas.map toRecord, ())
  ofRecord := fun (ikesas, ()) => ⟨ikesas.map ofRecord⟩
  ofRecord_toRecord m := by simp
  toRecord_ofRecord _ := Prod.ext (list_toRecord_ofRecord _) rfl

structure ListConnsRequest where
  ike : String := ""
  deriving DecidableEq, Repr, Inhabited

abbrev ListConnsRequest.schema : Schema :=
  .scalar 1 "ike" .text <|
  .done

instance : Message ListConnsRequest where
  name := "IPsecListConnsRequest"
  schema := ListConnsRequest.schema
  toRecord m := (m.ike, ())
  ofRecord := fun (ike, ()) => ⟨ike⟩
  ofRecord_toRecord _ := rfl
  toRecord_ofRecord _ := rfl

structure ListChild where
  name : String := ""
  mode : String := ""
  localTs : List String := []
  remoteTs : List String := []
  deriving DecidableEq, Repr, Inhabited

abbrev ListChild.schema : Schema :=
  .scalar 1 "name" .text <|
  .scalar 2 "mode" .text <|
  .scalar 3 "local_ts" .texts <|
  .scalar 4 "remote_ts" .texts <|
  .done

instance : Message ListChild where
  name := "ListChild"
  schema := ListChild.schema
  toRecord m := (m.name, m.mode, m.localTs, m.remoteTs, ())
  ofRecord := fun (name, mode, localTs, remoteTs, ()) => ⟨name, mode, localTs, remoteTs⟩
  ofRecord_toRecord _ := rfl
  toRecord_ofRecord _ := rfl

structure ListConnResp where
  name : String := ""
  localAddrs : List String := []
  remoteAddrs : List String := []
  version : String := ""
  children : List ListChild := []
  deriving DecidableEq, Repr, Inhabited

abbrev ListConnResp.schema : Schema :=
  .scalar 1 "name" .text <|
  .scalar 2 "local_addrs" .texts <|
  .scalar 3 "remote_addrs" .texts <|
  .scalar 4 "version" .text <|
  .messages 5 "children" "ListChild" ListChild.schema <|
  .done

instance : Message ListConnResp where
  name := "ListConnResp"
  schema := ListConnResp.schema
  toRecord m := (m.name, m.localAddrs, m.remoteAddrs, m.version, m.children.map toRecord, ())
  ofRecord := fun
    | (name, localAddrs, remoteAddrs, version, children, ()) =>
      ⟨name, localAddrs, remoteAddrs, version, children.map ofRecord⟩
  ofRecord_toRecord m := by simp
  toRecord_ofRecord _ :=
    Prod.ext rfl <| Prod.ext rfl <| Prod.ext rfl <| Prod.ext rfl <|
    Prod.ext (list_toRecord_ofRecord _) rfl

structure ListConnsResponse where
  connection : List ListConnResp := []
  deriving DecidableEq, Repr, Inhabited

abbrev ListConnsResponse.schema : Schema :=
  .messages 1 "connection" "ListConnResp" ListConnResp.schema <|
  .done

instance : Message ListConnsResponse where
  name := "IPsecListConnsResponse"
  schema := ListConnsResponse.schema
  toRecord m := (m.connection.map toRecord, ())
  ofRecord := fun (connection, ()) => ⟨connection.map ofRecord⟩
  ofRecord_toRecord m := by simp
  toRecord_ofRecord _ := Prod.ext (list_toRecord_ofRecord _) rfl

structure ListCertsRequest where
  type : String := ""
  flag : String := ""
  subject : String := ""
  deriving DecidableEq, Repr, Inhabited

abbrev ListCertsRequest.schema : Schema :=
  .scalar 1 "type" .text <|
  .scalar 2 "flag" .text <|
  .scalar 3 "subject" .text <|
  .done

instance : Message ListCertsRequest where
  name := "IPsecListCertsRequest"
  schema := ListCertsRequest.schema
  toRecord m := (m.type, m.flag, m.subject, ())
  ofRecord := fun (type, flag, subject, ()) => ⟨type, flag, subject⟩
  ofRecord_toRecord _ := rfl
  toRecord_ofRecord _ := rfl

structure ListCert where
  type : String := ""
  flag : String := ""
  hasPrivkey : String := ""
  data : String := ""
  subject : String := ""
  notBefore : String := ""
  notAfter : String := ""
  deriving DecidableEq, Repr, Inhabited

abbrev ListCert.schema : Schema :=
  .scalar 1 "type" .text <|
  .scalar 2 "flag" .text <|
  .scalar 3 "has_privkey" .text <|
  .scalar 4 "data" .text <|
  .scalar 5 "subject" .text <|
  .scalar 6 "not_before" .text <|
  .scalar 7 "not_after" .text <|
  .done

instance : Message ListCert where
  name := "ListCert"
  schema := ListCert.schema
  toRecord m := (m.type, m.flag, m.hasPrivkey, m.data, m.subject, m.notBefore, m.notAfter, ())
  ofRecord := fun
    | (type, flag, hasPrivkey, data, subject, notBefore, notAfter, ()) =>
      ⟨type, flag, hasPrivkey, data, subject, notBefore, notAfter⟩
  ofRecord_toRecord _ := rfl
  toRecord_ofRecord _ := rfl

structure ListCertsResponse where
  certs : List ListCert := []
  deriving DecidableEq, Repr, Inhabited

abbrev ListCertsResponse.schema : Schema :=
  .messages 1 "certs" "ListCert" ListCert.schema <|
  .done

instance : Message ListCertsResponse where
  name := "IPsecListCertsResponse"
  schema := ListCertsResponse.schema
  toRecord m := (m.certs.map toRecord, ())
  ofRecord := fun (certs, ()) => ⟨certs.map ofRecord⟩
  ofRecord_toRecord m := by simp
  toRecord_ofRecord _ := Prod.ext (list_toRecord_ofRecord _) rfl
end IPsecControl.Message
