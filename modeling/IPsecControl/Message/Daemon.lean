import IPsecControl.Message.Basic

/-! Messages about the daemon itself. -/
namespace IPsecControl.Message
open Wire

structure VersionRequest where
  deriving DecidableEq, Repr, Inhabited

abbrev VersionRequest.schema : Schema :=
  .done

instance : Message VersionRequest where
  name := "IPsecVersionRequest"
  schema := VersionRequest.schema
  toRecord _ := ()
  ofRecord _ := ⟨⟩
  ofRecord_toRecord _ := rfl
  toRecord_ofRecord _ := rfl

structure VersionResponse where
  daemon : String := ""
  version : String := ""
  sysname : String := ""
  release : String := ""
  machine : String := ""
  deriving DecidableEq, Repr, Inhabited

abbrev VersionResponse.schema : Schema :=
  .scalar 1 "daemon" .text <|
  .scalar 2 "version" .text <|
  .scalar 3 "sysname" .text <|
  .scalar 4 "release" .text <|
  .scalar 5 "machine" .text <|
  .done

instance : Message VersionResponse where
  name := "IPsecVersionResponse"
  schema := VersionResponse.schema
  toRecord m := (m.daemon, m.version, m.sysname, m.release, m.machine, ())
  ofRecord := fun
    | (daemon, version, sysname, release, machine, ()) =>
      ⟨daemon, version, sysname, release, machine⟩
  ofRecord_toRecord _ := rfl
  toRecord_ofRecord _ := rfl

structure StatsRequest where
  deriving DecidableEq, Repr, Inhabited

abbrev StatsRequest.schema : Schema :=
  .done

instance : Message StatsRequest where
  name := "IPsecStatsRequest"
  schema := StatsRequest.schema
  toRecord _ := ()
  ofRecord _ := ⟨⟩
  ofRecord_toRecord _ := rfl
  toRecord_ofRecord _ := rfl

structure StatsResponse where
  status : String := ""
  deriving DecidableEq, Repr, Inhabited

abbrev StatsResponse.schema : Schema :=
  .scalar 1 "status" .text <|
  .done

instance : Message StatsResponse where
  name := "IPsecStatsResponse"
  schema := StatsResponse.schema
  toRecord m := (m.status, ())
  ofRecord := fun (status, ()) => ⟨status⟩
  ofRecord_toRecord _ := rfl
  toRecord_ofRecord _ := rfl
end IPsecControl.Message
