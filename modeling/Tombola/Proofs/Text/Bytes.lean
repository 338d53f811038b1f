import Mathlib
import Tombola.Json.Reader

/-!
# The bytes of characters

The bytes of a text are those of its characters, one after the other. An ASCII character is its own
byte, which no byte of another character is.
-/

namespace Tombola.Text

/-- The bytes of characters in UTF-8. -/
def bytesOf (cs : List Char) : Bytes := cs.flatMap String.utf8EncodeChar

@[simp] theorem bytesOf_nil : bytesOf [] = [] := rfl

theorem bytesOf_cons (c : Char) (cs : List Char) :
    bytesOf (c :: cs) = String.utf8EncodeChar c ++ bytesOf cs := List.flatMap_cons

@[simp] theorem bytesOf_append (cs ds : List Char) :
    bytesOf (cs ++ ds) = bytesOf cs ++ bytesOf ds := List.flatMap_append

theorem utf8_ofList (cs : List Char) : utf8 (String.ofList cs) = bytesOf cs := by
  rw [utf8, String.toUTF8_eq_toByteArray, String.toByteArray_ofList, List.utf8Encode, bytesOf]
  simp

theorem ofUtf8?_bytesOf (cs : List Char) : ofUtf8? (bytesOf cs) = some (String.ofList cs) := by
  rw [← utf8_ofList, ofUtf8?_utf8]

/-- An ASCII character is one byte. -/
theorem utf8EncodeChar_ascii {c : Char} (h : c.toNat < 128) :
    String.utf8EncodeChar c = [c.toUInt8] := if_pos (Nat.le_of_lt_succ h)

/-- The byte of an ASCII character is seen as that character. -/
theorem seen_toUInt8 {c : Char} (h : c.toNat < 128) : Json.seen c.toUInt8 = c := by
  apply Char.ext
  apply UInt32.toNat_inj.mp
  have hlt : c.val.toNat < 256 := lt_trans h (by decide)
  calc
    (c.val.toUInt8.toUInt32).toNat = c.val.toNat % 256 := rfl
    _ = c.val.toNat := Nat.mod_eq_of_lt hlt

theorem ascii_of_isAlphanum {c : Char} (h : c.isAlphanum = true) : c.toNat < 128 := by
  simp only [Char.isAlphanum, Char.isAlpha, Char.isUpper, Char.isLower, Char.isDigit,
    Bool.or_eq_true, Bool.and_eq_true, decide_eq_true_eq, UInt32.le_iff_toNat_le] at h
  rcases h with (⟨_, hle⟩ | ⟨_, hle⟩) | ⟨_, hle⟩ <;> exact lt_of_le_of_lt hle (by decide)

/-- The bytes of a character beyond ASCII are beyond ASCII. -/
theorem le_of_mem_utf8EncodeChar {c : Char} (h : 128 ≤ c.toNat) {b : UInt8}
    (hb : b ∈ String.utf8EncodeChar c) : 128 ≤ b.toNat := by
  have hv : ¬c.val.toNat ≤ 127 := Nat.not_le_of_lt h
  simp only [String.utf8EncodeChar, hv, if_false] at hb
  split at hb
  · simp only [List.mem_cons, List.not_mem_nil, or_false] at hb
    rcases hb with rfl | rfl <;> simp <;> omega
  · split at hb
    · simp only [List.mem_cons, List.not_mem_nil, or_false] at hb
      rcases hb with rfl | rfl | rfl <;> simp <;> omega
    · simp only [List.mem_cons, List.not_mem_nil, or_false] at hb
      rcases hb with rfl | rfl | rfl | rfl <;> simp <;> omega

/-- Every character takes a byte at least. -/
theorem length_le_length_bytesOf (cs : List Char) : cs.length ≤ (bytesOf cs).length := by
  induction cs with
  | nil => exact Nat.zero_le _
  | cons c cs ih =>
      have hpos : 0 < (String.utf8EncodeChar c).length := by
        rw [String.length_utf8EncodeChar]
        exact c.utf8Size_pos
      rw [bytesOf_cons, List.length_append, List.length_cons]
      omega

end Tombola.Text
