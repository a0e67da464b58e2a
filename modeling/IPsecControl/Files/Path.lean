import IPsecControl.Text.Utf8

/-! Paths of files. Any bytes make a path, and equal paths have the same bytes. What is shown of one is
a text, in which replacement characters stand for what is not UTF-8. -/
namespace IPsecControl.Files

structure Path where
  bytes : List UInt8
  deriving DecidableEq, Repr

namespace Path

def ofText (text : String) : Path := ⟨Text.Utf8.bytes text⟩

def display (p : Path) : String := .ofList (Text.Utf8.lossy p.bytes)

end Path
end IPsecControl.Files
