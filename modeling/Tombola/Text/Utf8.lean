/-!
# Texts as bytes

The bytes of a text are its UTF-8 form. Not every sequence of bytes is one, and two texts with the
same bytes are equal: reading the bytes of a text gives the text back.
-/

namespace Tombola

/-- A sequence of bytes. -/
abbrev Bytes := List UInt8

namespace Text

/-- The bytes of a text in UTF-8. -/
def utf8 (s : String) : Bytes := s.toUTF8.data.toList

/-- The text whose bytes these are. -/
def ofUtf8? (bs : Bytes) : Option String := String.fromUTF8? ⟨bs.toArray⟩

theorem ofUtf8?_utf8 (s : String) : ofUtf8? (utf8 s) = some s := by
  simp only [ofUtf8?, utf8, Array.toArray_toList, String.toUTF8_eq_toByteArray,
    String.fromUTF8?]
  rw [dif_pos s.isValidUTF8]
  rfl

/-- How many bytes the characters take. -/
def byteCount : List Char → Nat
  | [] => 0
  | c :: cs => c.utf8Size + byteCount cs

/-- The longest start of a text that takes no more bytes than there is room for. -/
def fitting : Nat → List Char → List Char
  | _, [] => []
  | room, c :: cs => if c.utf8Size ≤ room then c :: fitting (room - c.utf8Size) cs else []

end Text

end Tombola
