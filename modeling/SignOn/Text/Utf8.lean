/-! # Texts as UTF-8 bytes -/

namespace SignOn

abbrev Bytes := List UInt8

namespace Text

/-- The UTF-8 encoding of a text. -/
def utf8 (s : String) : Bytes := s.toByteArray.data.toList

/-- The text with this UTF-8 encoding, if the bytes are one. -/
def ofUtf8? (bs : Bytes) : Option String := String.fromUTF8? ⟨bs.toArray⟩

theorem ofUtf8?_utf8 (s : String) : ofUtf8? (utf8 s) = some s := by
  have h : (⟨(utf8 s).toArray⟩ : ByteArray) = s.toByteArray := by simp [utf8]
  rw [ofUtf8?, h, String.fromUTF8?, dif_pos s.isValidUTF8]
  rfl

/-- Bytes below 128 as the text they spell. -/
def ofAscii (bs : Bytes) : String := String.ofList (bs.map fun b ↦ Char.ofNat b.toNat)

end Text

end SignOn
