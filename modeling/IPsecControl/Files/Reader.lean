import IPsecControl.Error.System
import IPsecControl.Files.Path

/-! Reading files. Whatever needs a file takes a reader; `Tree` is one over files in memory,
which finds paths the way a file system does. -/
namespace IPsecControl.Files

/-- The contents of the file at a path. -/
abbrev Reader := Path → Except SystemError (List UInt8)

def readText (reader : Reader) (path : Path) : Except SystemError String := do
  match Text.Utf8.text? (← reader path) with
  | some text => .ok text
  | none => .error .invalidText

inductive Entry where
  | file (bytes : List UInt8)
  | directory
  deriving DecidableEq, Repr

abbrev Name := List UInt8

/-- A place, as the names that lead to it from the root. -/
abbrev Place := List Name

def place (names : List String) : Place := names.map Text.Utf8.bytes

/-- What is known of a file system, and the working directory in it. -/
structure Tree where
  entries : List (Place × Entry)
  working : Place
  deriving DecidableEq, Repr

def standardDirectories : List (List String) :=
  ["boot", "home", "lib", "media", "mnt", "opt", "proc", "root", "run", "sbin", "srv", "sys",
    "tmp", "usr", "var"].map ([·]) ++
  ["bin", "include", "lib", "local", "sbin", "share", "src"].map (["usr", ·]) ++
  ["cache", "lib", "local", "log", "opt", "run", "spool", "tmp"].map (["var", ·]) ++
  ["fd", "mqueue", "pts", "shm"].map (["dev", ·]) ++
  ["default", "init.d", "ssl"].map (["etc", ·])

def standardPrograms : List String :=
  ["bash", "cat", "cp", "date", "echo", "env", "false", "grep", "id", "ls", "mv", "ping", "rm",
    "sed", "sh", "sleep", "true"]

/-- Texts of every system, and how they begin. -/
def standardTexts : List (List String × String) := [
  (["etc", "passwd"], "root:x:0:0:root:/root:/bin/bash\n"),
  (["etc", "shadow"], "root:*:0:0:99999:7:::\n"),
  (["etc", "group"], "root:x:0:\n"),
  (["etc", "hosts"], "127.0.0.1\tlocalhost\n"),
  (["etc", "os-release"], "PRETTY_NAME=\"Linux\"\n"),
  (["proc", "version"], "Linux version\n"),
  (["proc", "cpuinfo"], "processor\t: 0\n"),
  (["proc", "meminfo"], "MemTotal:\n"),
  (["proc", "self", "status"], "Name:\n")]

/-- How a program begins, which is no text. -/
def programBytes : List UInt8 := [0x7F, 0x45, 0x4C, 0x46, 0x02, 0x01, 0x80]

/-- What every system has: its directories, its programs and texts, and a device that holds
nothing. -/
def standard : List (Place × Entry) :=
  standardDirectories.map (fun names => (place names, .directory)) ++
  standardPrograms.flatMap (fun name =>
    [(place ["bin", name], .file programBytes), (place ["usr", "bin", name], .file programBytes)]) ++
  standardTexts.map (fun (names, text) => (place names, .file (Text.Utf8.bytes text))) ++
  [(place ["dev", "null"], .file [])]

namespace Tree

/-- A system whose working directory holds the given entries. -/
def holding (entries : List (Place × Entry)) : Tree :=
  let working := place ["tmp", "files"]
  { entries := (working, .directory) ::
      entries.map (fun (place, entry) => (working ++ place, entry)) ++ standard
    working }

variable (t : Tree)

/-- What is at a place. A place on the way to an entry is a directory. -/
def at? (place : Place) : Option Entry :=
  match t.entries.find? (·.1 = place) with
  | some (_, entry) => some entry
  | none =>
    if place = [] || t.entries.any (fun e => place.isPrefixOf e.1) then some .directory else none

/-- The longest name that a directory holds, and the longest path, in bytes. -/
def longestName : Nat := 255
def longestPath : Nat := 4095

/-- Follows names from a place. The place around the root is the root. -/
def follow : Place → List Name → Except SystemError Place
  | place, [] => .ok place
  | place, name :: names =>
    match t.at? place with
    | none => .error .notFound
    | some (.file _) => .error .notADirectory
    | some .directory =>
      if name = [] ∨ name = Text.Utf8.bytes "." then follow place names
      else if name = Text.Utf8.bytes ".." then follow place.dropLast names
      else if longestName < name.length then .error .nameTooLong
      else follow (place ++ [name]) names

/-- What parts the names of a path. -/
def slash : UInt8 := 0x2F

def find (path : Path) : Except SystemError Place :=
  if 0 ∈ path.bytes then .error .zeroInPath
  else if path.bytes = [] then .error .notFound
  else if longestPath < path.bytes.length then .error .nameTooLong
  else
    let names := path.bytes.splitOn slash
    t.follow (if names.head? = some [] then [] else t.working) names

def read : Reader := fun path => do
  match t.at? (← t.find path) with
  | some (.file bytes) => .ok bytes
  | some .directory => .error .isADirectory
  | none => .error .notFound

end Tree
end IPsecControl.Files
