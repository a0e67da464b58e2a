import IPsecControl.Transport.Der

/-! Certificates: a body with the key that is certified, and a signature, which is not looked
at. A body of the third version can have extensions; those that have to be understood are of a
few kinds, each of which comes once. -/
namespace IPsecControl.Transport
open Der

structure Certificate where
  /-- The key that is certified: its algorithm and its bits. -/
  key : Bytes
  deriving DecidableEq, Repr

namespace Certificate

/-! ### Extensions -/

structure Extension where
  oid : Bytes
  critical : Bool
  value : Bytes
  deriving DecidableEq, Repr

def critical? (bs : Bytes) : Option (Bool × Bytes) :=
  if bs.head? ≠ some booleanTag then some (false, bs)
  else
    match tagged? booleanTag bs with
    | some ([0x00], rest) => some (false, rest)
    | some ([0xFF], rest) => some (true, rest)
    | _ => none

def Extension.parse? (content : Bytes) : Option Extension := do
  let (oid, rest) ← tagged? oidTag content
  let (critical, rest) ← critical? rest
  return ⟨oid, critical, ← whole? octetsTag rest⟩

/-- The extension that tells what a key may be used for. -/
def keyUsage : Bytes := [0x55, 0x1D, 15]

/-- Extensions that are understood: also those about names, authorities, revocations and
purposes. -/
def understood : List Bytes := keyUsage :: [17, 19, 30, 31, 37].map fun n => [0x55, 0x1D, n]

/-- Whether an extension can be left as it is. -/
def Extension.isGood (e : Extension) : Bool :=
  if e.oid = keyUsage then true
  else if e.oid ∈ understood then (whole? sequenceTag e.value).isSome
  else !e.critical

/-- Reads extensions; those that are understood may not come again. -/
def extensionsFrom? : Nat → List Bytes → Bytes → Option Unit
  | _, _, [] => some ()
  | 0, _, _ => none
  | fuel + 1, seen, bs => do
    let (content, rest) ← tagged? sequenceTag bs
    let e ← Extension.parse? content
    if !e.isGood || e.oid ∈ seen then none
    else if e.oid ∈ understood then extensionsFrom? fuel (e.oid :: seen) rest
    else extensionsFrom? fuel seen rest

/-- Reads what may follow the key. -/
def extensions? (bs : Bytes) : Option Unit :=
  if bs.isEmpty then some ()
  else do
    let content ← whole? sequenceTag (← whole? (contextTag 3) bs)
    extensionsFrom? content.length [] content

/-! ### Certificates -/

/-- What is signed, and the algorithm of the signature. -/
structure Signed where
  body : Bytes
  algorithm : Bytes
  deriving DecidableEq, Repr

def Signed.parse? (certificate : Bytes) : Option Signed := do
  let content ← whole? sequenceTag certificate
  let (body, rest) ← tagged? sequenceTag content
  let (algorithm, rest) ← tagged? sequenceTag rest
  let _ ← wholeBits? (← whole? bitsTag rest)
  return ⟨body, algorithm⟩

/-- The algorithm of the signature and the key in a body from its serial number on, and what
follows them. Between them are who signs, how long that holds, and who has the key. -/
def content? (body : Bytes) : Option ((Bytes × Bytes) × Bytes) := do
  let (_, rest) ← tagged? integerTag body
  let (algorithm, rest) ← tagged? sequenceTag rest
  let (_, rest) ← tagged? sequenceTag rest
  let (_, rest) ← tagged? sequenceTag rest
  let (_, rest) ← tagged? sequenceTag rest
  let (key, rest) ← tagged? sequenceTag rest
  return ((algorithm, key), rest)

/-- Reads a certificate of the third version. -/
def parse? (certificate : Bytes) : Option Certificate := do
  let signed ← Signed.parse? certificate
  let (version, rest) ← tagged? (contextTag 0) signed.body
  let version ← whole? integerTag version
  let ((algorithm, key), rest) ← content? rest
  extensions? rest
  if version = [2] ∧ algorithm = signed.algorithm then return ⟨key⟩ else none

/-- Reads a certificate of the first version, which has neither a number for that nor
extensions. -/
def parseFirst? (certificate : Bytes) : Option Certificate := do
  let signed ← Signed.parse? certificate
  let ((_, key), rest) ← content? signed.body
  if rest.isEmpty then return ⟨key⟩ else none

/-- Whether a certificate can be that of an authority. -/
def isAuthority (certificate : Bytes) : Bool :=
  (parse? certificate).isSome || (parseFirst? certificate).isSome

end Certificate
end IPsecControl.Transport
