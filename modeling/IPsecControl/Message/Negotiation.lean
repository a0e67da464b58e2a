import IPsecControl.Message.Basic

/-! Messages that start, rekey and end security associations. -/
namespace IPsecControl.Message
open Wire

structure InitiateRequest where
  child : String := ""
  ike : String := ""
  timeout : String := ""
  loglevel : String := ""
  deriving DecidableEq, Repr, Inhabited

abbrev InitiateRequest.schema : Schema :=
  .scalar 1 "child" .text <|
  .scalar 2 "ike" .text <|
  .scalar 3 "timeout" .text <|
  .scalar 4 "loglevel" .text <|
  .done

instance : Message InitiateRequest where
  name := "IPsecInitiateRequest"
  schema := InitiateRequest.schema
  toRecord m := (m.child, m.ike, m.timeout, m.loglevel, ())
  ofRecord := fun (child, ike, timeout, loglevel, ()) => ⟨child, ike, timeout, loglevel⟩
  ofRecord_toRecord _ := rfl
  toRecord_ofRecord _ := rfl

/-- Nothing but success. -/
structure InitiateResponse where
  deriving DecidableEq, Repr, Inhabited

abbrev InitiateResponse.schema : Schema :=
  .done

instance : Message InitiateResponse where
  name := "IPsecInitiateResponse"
  schema := InitiateResponse.schema
  toRecord _ := ()
  ofRecord _ := ⟨⟩
  ofRecord_toRecord _ := rfl
  toRecord_ofRecord _ := rfl

structure TerminateRequest where
  child : String := ""
  ike : String := ""
  childId : UInt64 := 0
  ikeId : UInt64 := 0
  force : String := ""
  timeout : String := ""
  loglevel : String := ""
  deriving DecidableEq, Repr, Inhabited

abbrev TerminateRequest.schema : Schema :=
  .scalar 1 "child" .text <|
  .scalar 2 "ike" .text <|
  .scalar 3 "child_id" .word64 <|
  .scalar 4 "ike_id" .word64 <|
  .scalar 5 "force" .text <|
  .scalar 6 "timeout" .text <|
  .scalar 7 "loglevel" .text <|
  .done

instance : Message TerminateRequest where
  name := "IPsecTerminateRequest"
  schema := TerminateRequest.schema
  toRecord m := (m.child, m.ike, m.childId, m.ikeId, m.force, m.timeout, m.loglevel, ())
  ofRecord := fun
    | (child, ike, childId, ikeId, force, timeout, loglevel, ()) =>
      ⟨child, ike, childId, ikeId, force, timeout, loglevel⟩
  ofRecord_toRecord _ := rfl
  toRecord_ofRecord _ := rfl

structure TerminateResponse where
  success : String := ""
  matched : UInt64 := 0
  terminated : UInt64 := 0
  deriving DecidableEq, Repr, Inhabited

abbrev TerminateResponse.schema : Schema :=
  .scalar 1 "success" .text <|
  .scalar 2 "matches" .word64 <|
  .scalar 3 "terminated" .word64 <|
  .done

instance : Message TerminateResponse where
  name := "IPsecTerminateResponse"
  schema := TerminateResponse.schema
  toRecord m := (m.success, m.matched, m.terminated, ())
  ofRecord := fun (success, matched, terminated, ()) => ⟨success, matched, terminated⟩
  ofRecord_toRecord _ := rfl
  toRecord_ofRecord _ := rfl

structure RekeyRequest where
  child : String := ""
  ike : String := ""
  childId : UInt64 := 0
  ikeId : UInt64 := 0
  reauth : String := ""
  deriving DecidableEq, Repr, Inhabited

abbrev RekeyRequest.schema : Schema :=
  .scalar 1 "child" .text <|
  .scalar 2 "ike" .text <|
  .scalar 3 "child_id" .word64 <|
  .scalar 4 "ike_id" .word64 <|
  .scalar 5 "reauth" .text <|
  .done

instance : Message RekeyRequest where
  name := "IPsecRekeyRequest"
  schema := RekeyRequest.schema
  toRecord m := (m.child, m.ike, m.childId, m.ikeId, m.reauth, ())
  ofRecord := fun (child, ike, childId, ikeId, reauth, ()) => ⟨child, ike, childId, ikeId, reauth⟩
  ofRecord_toRecord _ := rfl
  toRecord_ofRecord _ := rfl

structure RekeyResponse where
  success : String := ""
  matched : UInt64 := 0
  deriving DecidableEq, Repr, Inhabited

abbrev RekeyResponse.schema : Schema :=
  .scalar 1 "success" .text <|
  .scalar 2 "matches" .word64 <|
  .done

instance : Message RekeyResponse where
  name := "IPsecRekeyResponse"
  schema := RekeyResponse.schema
  toRecord m := (m.success, m.matched, ())
  ofRecord := fun (success, matched, ()) => ⟨success, matched⟩
  ofRecord_toRecord _ := rfl
  toRecord_ofRecord _ := rfl
end IPsecControl.Message
