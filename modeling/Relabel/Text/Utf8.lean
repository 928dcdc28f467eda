import Relabel.Text.SingleByte

/-!
# UTF-8

Rename tables and settings are kept in UTF-8.
-/

namespace Relabel.Text

def toUtf8 (t : Text) : Bytes :=
  (String.ofList t).toUTF8.data.toList

/-- The text whose UTF-8 form the bytes are, if there is one. -/
def ofUtf8? (bytes : Bytes) : Option Text :=
  (String.fromUTF8? ⟨bytes.toArray⟩).map String.toList

theorem ofUtf8?_toUtf8 (t : Text) : ofUtf8? (toUtf8 t) = some t := by
  have h : (⟨(toUtf8 t).toArray⟩ : ByteArray) = (String.ofList t).toUTF8 := by
    simp [toUtf8]
  have hv : (String.ofList t).toUTF8.IsValidUTF8 := (String.ofList t).isValidUTF8
  have hs : String.fromUTF8 (String.ofList t).toUTF8 hv = String.ofList t := rfl
  rw [ofUtf8?, h, String.fromUTF8?, dif_pos hv, hs]
  simp

end Relabel.Text
