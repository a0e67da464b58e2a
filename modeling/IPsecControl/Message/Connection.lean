import IPsecControl.Message.Basic

/-! Messages that carry connection definitions. -/
namespace IPsecControl.Message
open Wire

/-- One address. -/
structure Addrs where
  addr : String := ""
  deriving DecidableEq, Repr, Inhabited

abbrev Addrs.schema : Schema :=
  .scalar 1 "addr" .text <|
  .done

instance : Message Addrs where
  name := "Addrs"
  schema := Addrs.schema
  toRecord m := (m.addr, ())
  ofRecord := fun (addr, ()) => ⟨addr⟩
  ofRecord_toRecord _ := rfl
  toRecord_ofRecord _ := rfl

structure LocalAuth where
  auth : Int32 := 0
  id : String := ""
  deriving DecidableEq, Repr, Inhabited

abbrev LocalAuth.schema : Schema :=
  .scalar 1 "auth" .code <|
  .scalar 2 "id" .text <|
  .done

instance : Message LocalAuth where
  name := "LocalAuth"
  schema := LocalAuth.schema
  toRecord m := (m.auth, m.id, ())
  ofRecord := fun (auth, id, ()) => ⟨auth, id⟩
  ofRecord_toRecord _ := rfl
  toRecord_ofRecord _ := rfl

structure RemoteAuth where
  auth : Int32 := 0
  id : String := ""
  deriving DecidableEq, Repr, Inhabited

abbrev RemoteAuth.schema : Schema :=
  .scalar 1 "auth" .code <|
  .scalar 2 "id" .text <|
  .done

instance : Message RemoteAuth where
  name := "RemoteAuth"
  schema := RemoteAuth.schema
  toRecord m := (m.auth, m.id, ())
  ofRecord := fun (auth, id, ()) => ⟨auth, id⟩
  ofRecord_toRecord _ := rfl
  toRecord_ofRecord _ := rfl

/-- Algorithm codes on offer, in order of preference. -/
structure Proposals where
  cryptoAlg : List Int32 := []
  integAlg : List Int32 := []
  dhgroups : List Int32 := []
  deriving DecidableEq, Repr, Inhabited

abbrev Proposals.schema : Schema :=
  .scalar 1 "crypto_alg" .codes <|
  .scalar 2 "integ_alg" .codes <|
  .scalar 3 "dhgroups" .codes <|
  .done

instance : Message Proposals where
  name := "Proposals"
  schema := Proposals.schema
  toRecord m := (m.cryptoAlg, m.integAlg, m.dhgroups, ())
  ofRecord := fun (cryptoAlg, integAlg, dhgroups, ()) => ⟨cryptoAlg, integAlg, dhgroups⟩
  ofRecord_toRecord _ := rfl
  toRecord_ofRecord _ := rfl

/-- A range of addresses, with an optional protocol and port. -/
structure TrafficSelector where
  cidr : String := ""
  proto : String := ""
  port : String := ""
  deriving DecidableEq, Repr, Inhabited

abbrev TrafficSelector.schema : Schema :=
  .scalar 1 "cidr" .text <|
  .scalar 2 "proto" .text <|
  .scalar 3 "port" .text <|
  .done

instance : Message TrafficSelector where
  name := "TrafficSelector"
  schema := TrafficSelector.schema
  toRecord m := (m.cidr, m.proto, m.port, ())
  ofRecord := fun (cidr, proto, port, ()) => ⟨cidr, proto, port⟩
  ofRecord_toRecord _ := rfl
  toRecord_ofRecord _ := rfl

structure TrafficSelectors where
  ts : List TrafficSelector := []
  deriving DecidableEq, Repr, Inhabited

abbrev TrafficSelectors.schema : Schema :=
  .messages 1 "ts" "TrafficSelector" TrafficSelector.schema <|
  .done

instance : Message TrafficSelectors where
  name := "TrafficSelectors"
  schema := TrafficSelectors.schema
  toRecord m := (m.ts.map toRecord, ())
  ofRecord := fun (ts, ()) => ⟨ts.map ofRecord⟩
  ofRecord_toRecord m := by simp
  toRecord_ofRecord _ := Prod.ext (list_toRecord_ofRecord _) rfl

structure Child where
  name : String := ""
  espProposals : Option Proposals := none
  localTs : Option TrafficSelectors := none
  remoteTs : Option TrafficSelectors := none
  deriving DecidableEq, Repr, Inhabited

abbrev Child.schema : Schema :=
  .scalar 1 "name" .text <|
  .message 2 "esp_proposals" "Proposals" Proposals.schema <|
  .message 3 "local_ts" "TrafficSelectors" TrafficSelectors.schema <|
  .message 4 "remote_ts" "TrafficSelectors" TrafficSelectors.schema <|
  .done

instance : Message Child where
  name := "Child"
  schema := Child.schema
  toRecord m :=
    (m.name, m.espProposals.map toRecord, m.localTs.map toRecord, m.remoteTs.map toRecord, ())
  ofRecord := fun
    | (name, espProposals, localTs, remoteTs, ()) =>
      ⟨name, espProposals.map ofRecord, localTs.map ofRecord, remoteTs.map ofRecord⟩
  ofRecord_toRecord m := by simp
  toRecord_ofRecord _ :=
    Prod.ext rfl <| Prod.ext (option_toRecord_ofRecord _) <|
    Prod.ext (option_toRecord_ofRecord _) <| Prod.ext (option_toRecord_ofRecord _) rfl

structure Connection where
  name : String := ""
  version : String := ""
  vips : List Addrs := []
  localAddrs : List Addrs := []
  remoteAddrs : List Addrs := []
  localAuth : Option LocalAuth := none
  remoteAuth : Option RemoteAuth := none
  children : List Child := []
  proposals : Option Proposals := none
  deriving DecidableEq, Repr, Inhabited

abbrev Connection.schema : Schema :=
  .scalar 1 "name" .text <|
  .scalar 2 "version" .text <|
  .messages 3 "vips" "Addrs" Addrs.schema <|
  .messages 4 "local_addrs" "Addrs" Addrs.schema <|
  .messages 5 "remote_addrs" "Addrs" Addrs.schema <|
  .message 6 "local_auth" "LocalAuth" LocalAuth.schema <|
  .message 7 "remote_auth" "RemoteAuth" RemoteAuth.schema <|
  .messages 8 "children" "Child" Child.schema <|
  .message 9 "proposals" "Proposals" Proposals.schema <|
  .done

instance : Message Connection where
  name := "Connection"
  schema := Connection.schema
  toRecord m :=
    (m.name, m.version, m.vips.map toRecord, m.localAddrs.map toRecord, m.remoteAddrs.map toRecord,
     m.localAuth.map toRecord, m.remoteAuth.map toRecord, m.children.map toRecord,
     m.proposals.map toRecord, ())
  ofRecord := fun
    | (name, version, vips, localAddrs, remoteAddrs, localAuth, remoteAuth, children, proposals,
        ()) =>
      ⟨name, version, vips.map ofRecord, localAddrs.map ofRecord, remoteAddrs.map ofRecord,
       localAuth.map ofRecord, remoteAuth.map ofRecord, children.map ofRecord,
       proposals.map ofRecord⟩
  ofRecord_toRecord m := by simp
  toRecord_ofRecord _ :=
    Prod.ext rfl <| Prod.ext rfl <| Prod.ext (list_toRecord_ofRecord _) <|
    Prod.ext (list_toRecord_ofRecord _) <| Prod.ext (list_toRecord_ofRecord _) <|
    Prod.ext (option_toRecord_ofRecord _) <| Prod.ext (option_toRecord_ofRecord _) <|
    Prod.ext (list_toRecord_ofRecord _) <| Prod.ext (option_toRecord_ofRecord _) rfl

structure LoadConnRequest where
  connection : Option Connection := none
  deriving DecidableEq, Repr, Inhabited

abbrev LoadConnRequest.schema : Schema :=
  .message 1 "connection" "Connection" Connection.schema <|
  .done

instance : Message LoadConnRequest where
  name := "IPsecLoadConnRequest"
  schema := LoadConnRequest.schema
  toRecord m := (m.connection.map toRecord, ())
  ofRecord := fun (connection, ()) => ⟨connection.map ofRecord⟩
  ofRecord_toRecord m := by simp
  toRecord_ofRecord _ := Prod.ext (option_toRecord_ofRecord _) rfl

structure LoadConnResponse where
  success : String := ""
  deriving DecidableEq, Repr, Inhabited

abbrev LoadConnResponse.schema : Schema :=
  .scalar 1 "success" .text <|
  .done

instance : Message LoadConnResponse where
  name := "IPsecLoadConnResponse"
  schema := LoadConnResponse.schema
  toRecord m := (m.success, ())
  ofRecord := fun (success, ()) => ⟨success⟩
  ofRecord_toRecord _ := rfl
  toRecord_ofRecord _ := rfl

structure UnloadConnRequest where
  name : String := ""
  deriving DecidableEq, Repr, Inhabited

abbrev UnloadConnRequest.schema : Schema :=
  .scalar 1 "name" .text <|
  .done

instance : Message UnloadConnRequest where
  name := "IPsecUnloadConnRequest"
  schema := UnloadConnRequest.schema
  toRecord m := (m.name, ())
  ofRecord := fun (name, ()) => ⟨name⟩
  ofRecord_toRecord _ := rfl
  toRecord_ofRecord _ := rfl

structure UnloadConnResponse where
  success : String := ""
  deriving DecidableEq, Repr, Inhabited

abbrev UnloadConnResponse.schema : Schema :=
  .scalar 1 "success" .text <|
  .done

instance : Message UnloadConnResponse where
  name := "IPsecUnloadConnResponse"
  schema := UnloadConnResponse.schema
  toRecord m := (m.success, ())
  ofRecord := fun (success, ()) => ⟨success⟩
  ofRecord_toRecord _ := rfl
  toRecord_ofRecord _ := rfl
end IPsecControl.Message
