import IPsecControl.Text.Base64
import IPsecControl.Text.Scan

/-! PEM files: sections in base 64 between a line that begins and a line that ends them. Text
between sections counts for nothing, and neither do sections of an unknown kind. -/
namespace IPsecControl.Transport

abbrev Bytes := List UInt8

namespace Pem

def ascii (text : String) : Bytes := text.toList.map Text.Base64.code

inductive Kind where
  | certificate
  | publicKey
  | rsaKey
  | key
  | ecKey
  | revocations
  | request
  | helloConfig
  deriving DecidableEq, Repr

def Kind.all : List Kind :=
  [.certificate, .publicKey, .rsaKey, .key, .ecKey, .revocations, .request, .helloConfig]

def Kind.title : Kind → String
  | .certificate => "CERTIFICATE"
  | .publicKey => "PUBLIC KEY"
  | .rsaKey => "RSA PRIVATE KEY"
  | .key => "PRIVATE KEY"
  | .ecKey => "EC PRIVATE KEY"
  | .revocations => "X509 CRL"
  | .request => "CERTIFICATE REQUEST"
  | .helloConfig => "ECHCONFIG"

def Kind.ofTitle? (title : Bytes) : Option Kind := Kind.all.find? (ascii ·.title = title)

structure Section where
  kind : Kind
  content : Bytes
  deriving DecidableEq, Repr

/-- The lines of a file, with their ends. -/
def lines : Bytes → List Bytes
  | [] => []
  | b :: rest =>
    if b = 10 ∨ b = 13 then [b] :: lines rest
    else
      match lines rest with
      | [] => [[b]]
      | line :: more => (b :: line) :: more

def after? : Bytes → Bytes → Option Bytes
  | [], bs => some bs
  | e :: expected, b :: bs => if e = b then after? expected bs else none
  | _ :: _, [] => none

def dash : UInt8 := 45

def dashes : Bytes := List.replicate 5 dash

/-- What may stand around the dashes at the end of a line. -/
def isFiller (b : UInt8) : Bool := b == 10 || b == 13 || b == 32

/-- The title in the rest of a line that begins a section: what stands in front of the five
dashes at its end. -/
def title? (rest : Bytes) : Option Bytes :=
  let ending := (rest.reverse.takeWhile fun b => b == dash || isFiller b).reverse
  if ending.count dash = 5 then
    some (rest.take (rest.length - ending.length) ++ ending.takeWhile (· ≠ dash))
  else none

def isEnd (title line : Bytes) : Bool :=
  ((after? (ascii "-----END ") line).bind (after? title)).any fun rest =>
    (after? dashes rest).isSome

inductive Failure where
  | badBegin
  | badContent
  | noEnd
  deriving DecidableEq, Repr

/-- Reads sections from lines, inside a section of a title or outside; a failure ends the
reading. -/
def readSections : Option Bytes → Bytes → List Bytes → List (Except Failure Section)
  | none, _, [] => []
  | some _, _, [] => [.error .noEnd]
  | opened, content, line :: rest =>
    match after? (ascii "-----BEGIN ") line with
    | some tail =>
      match title? tail with
      | some title => readSections (some title) content rest
      | none => [.error .badBegin]
    | none =>
      match opened with
      | none => readSections none content rest
      | some title =>
        if isEnd title line then
          match Kind.ofTitle? title with
          | none => readSections none [] rest
          | some kind =>
            match Text.Base64.decode? content with
            | some bytes => .ok ⟨kind, bytes⟩ :: readSections none [] rest
            | none => [.error .badContent]
        else readSections (some title) (content ++ line) rest

/-- The sections of a file, up to the first that cannot be read. -/
def sections (file : Bytes) : List (Except Failure Section) := readSections none [] (lines file)

end Pem
end IPsecControl.Transport
