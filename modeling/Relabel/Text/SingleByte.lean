import Relabel.Text.Ranges

/-!
# One byte for each character

Sources are read with every byte standing for the character of the same number, so reading loses
nothing, and a text can be written back as long as no character lies above 255.
-/

namespace Relabel

/-- The contents of a file. -/
abbrev Bytes := List UInt8

namespace Text

def ofBytes (bytes : Bytes) : Text :=
  bytes.map fun b => Char.ofNat b.toNat

/-- The bytes of a text, or the first character that has no byte. -/
def toBytes : Text → Except Char Bytes
  | [] => .ok []
  | c :: rest =>
      if c.toNat < 256 then (toBytes rest).map (c.toNat.toUInt8 :: ·) else .error c

private theorem toNat_ofNat_byte (b : UInt8) : (Char.ofNat b.toNat).toNat = b.toNat := by
  have h : b.toNat < 256 := b.toNat_lt
  have hv : b.toNat.isValidChar := Or.inl (by omega)
  rw [Char.ofNat, dif_pos hv]
  rfl

theorem toBytes_ofBytes (bytes : Bytes) : toBytes (ofBytes bytes) = .ok bytes := by
  induction bytes with
  | nil => rfl
  | cons b rest ih =>
    have h : b.toNat < 256 := b.toNat_lt
    simp only [ofBytes, List.map_cons, toBytes] at ih ⊢
    rw [toNat_ofNat_byte, if_pos h, ih]
    simp [Except.map]

end Text

end Relabel
