import IPsecControl.Files.Path
import IPsecControl.Proofs.Text.Utf8

/-! Paths that are texts. The path of a text is shown as the text, so that it is found again in what is shown of
it. Of another path that is not so. -/
namespace IPsecControl.Files.Path
open Text

@[simp] theorem display_ofText (text : String) : (ofText text).display = text := by
  rw [display, ofText, Utf8.lossy_bytes, String.ofList_toList]

def IsText (p : Path) : Prop := ∃ text, p = ofText text

theorem isText_iff {p : Path} : p.IsText ↔ ofText p.display = p := by
  constructor
  · rintro ⟨text, rfl⟩
    rw [display_ofText]
  · intro same
    exact ⟨p.display, same.symm⟩

instance (p : Path) : Decidable p.IsText := decidable_of_iff _ isText_iff.symm

end IPsecControl.Files.Path
