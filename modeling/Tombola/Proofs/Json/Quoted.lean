import Tombola.Json.Printer
import Tombola.Proofs.Text.Bytes

/-!
# A quoted string is read back

An escaped character is a backslash and a letter, a code unit, or the character itself. None of
these ends the string, and each stands for the character that was escaped.
-/

namespace Tombola.Json

open Text

/-- How a character is written inside a string. -/
inductive Escaped (c : Char) : List Char → Prop
  | letter {x : Char} (ascii : x.toNat < 128) (other : x ≠ 'u') (stands : unescape? x = some c) :
      Escaped c ['\\', x]
  | unit {high low : Char} (control : c.toNat < 0x20)
      (digits : ∀ x ∈ ['0', '0', high, low], x.isAlphanum = true)
      (stands : codeUnit? '0' '0' high low = some c.toNat) :
      Escaped c ['\\', 'u', '0', '0', high, low]
  | plain (quote : c ≠ '\x22') (backslash : c ≠ '\\') (visible : 0x20 ≤ c.toNat) : Escaped c [c]

/-- The two digits of a control character are read back. -/
theorem codeUnit?_control : ∀ n, n < 0x20 →
    codeUnit? '0' '0' (Hex.upperDigit (n / 16)) (Hex.upperDigit (n % 16)) = some n := by
  decide +kernel

theorem isAlphanum_upperDigit : ∀ n, n < 16 → (Hex.upperDigit n).isAlphanum = true := by
  decide

theorem escaped (c : Char) : Escaped c (escape c) := by
  unfold escape
  split
  · next h => exact .letter (by decide) (by decide) (by rw [h]; rfl)
  split
  · next h => exact .letter (by decide) (by decide) (by rw [h]; rfl)
  split
  · next h => exact .letter (by decide) (by decide) (by rw [h]; rfl)
  split
  · next h => exact .letter (by decide) (by decide) (by rw [h]; rfl)
  split
  · next h => exact .letter (by decide) (by decide) (by rw [h]; rfl)
  split
  · next h => exact .letter (by decide) (by decide) (by rw [h]; rfl)
  split
  · next h => exact .letter (by decide) (by decide) (by rw [h]; rfl)
  split
  · next h =>
    have hhigh := isAlphanum_upperDigit (c.toNat / 16) (by omega)
    have hlow := isAlphanum_upperDigit (c.toNat % 16) (by omega)
    exact .unit h (by simp [hhigh, hlow]) (codeUnit?_control _ h)
  · next hquote hbackslash _ _ _ _ _ hvisible => exact .plain hquote hbackslash (not_lt.mp hvisible)

/-! ## The end of the content -/

/-- A byte that neither ends a string nor takes the next byte along. -/
def IsPlain (b : UInt8) : Prop := b ≠ '\x22'.toUInt8 ∧ b ≠ '\\'.toUInt8

theorem isPlain_of_mem {c : Char} (hquote : c ≠ '\x22') (hbackslash : c ≠ '\\') {b : UInt8}
    (hb : b ∈ String.utf8EncodeChar c) : IsPlain b := by
  by_cases h : c.toNat < 128
  · rw [utf8EncodeChar_ascii h, List.mem_singleton] at hb
    have hseen : seen b = c := by rw [hb, seen_toUInt8 h]
    constructor
    · rintro rfl
      exact hquote hseen.symm
    · rintro rfl
      exact hbackslash hseen.symm
  · have hbeyond := le_of_mem_utf8EncodeChar (not_lt.mp h) hb
    constructor
    · rintro rfl
      exact absurd hbeyond (by decide)
    · rintro rfl
      exact absurd hbeyond (by decide)

theorem isPlain_of_alphanum {cs : List Char} (h : ∀ c ∈ cs, c.isAlphanum = true) :
    ∀ b ∈ bytesOf cs, IsPlain b := by
  intro b hb
  obtain ⟨c, hc, hb⟩ := List.mem_flatMap.mp hb
  have hletter := h c hc
  apply isPlain_of_mem _ _ hb
  · rintro rfl
    cases hletter
  · rintro rfl
    cases hletter

theorem delimit_of_plain {bs : Bytes} (h : ∀ b ∈ bs, IsPlain b) (rest : Bytes) :
    delimit (bs ++ rest) = (delimit rest).map fun r => (bs ++ r.1, r.2) := by
  induction bs with
  | nil => simp
  | cons b bs ih =>
      obtain ⟨⟨hquote, hbackslash⟩, htail⟩ := List.forall_mem_cons.mp h
      rw [List.cons_append, delimit.eq_def]
      simp only [hquote, hbackslash, if_false, ih htail, Option.map_map]
      rfl

/-- A backslash takes the next byte along. -/
theorem delimit_backslash (b : UInt8) (rest : Bytes) :
    delimit ('\\'.toUInt8 :: b :: rest) =
      (delimit rest).map fun r => ('\\'.toUInt8 :: b :: r.1, r.2) := by
  rw [delimit.eq_def]
  rfl

/-- An escaped character does not end the content. -/
theorem delimit_escape (c : Char) (rest : Bytes) : delimit (bytesOf (escape c) ++ rest) =
    (delimit rest).map fun r => (bytesOf (escape c) ++ r.1, r.2) := by
  have hbackslash : String.utf8EncodeChar '\\' = ['\\'.toUInt8] := rfl
  have hescaped := escaped c
  generalize escape c = written at hescaped ⊢
  cases hescaped with
  | @letter x hascii _ _ =>
      have hbytes : bytesOf ['\\', x] = ['\\'.toUInt8, x.toUInt8] := by
        rw [bytesOf_cons, bytesOf_cons, hbackslash, utf8EncodeChar_ascii hascii]
        rfl
      rw [hbytes]
      exact delimit_backslash _ rest
  | @unit high low _ hdigits _ =>
      have hbytes : bytesOf ['\\', 'u', '0', '0', high, low] =
          '\\'.toUInt8 :: 'u'.toUInt8 :: bytesOf ['0', '0', high, low] := rfl
      rw [hbytes, List.cons_append, List.cons_append, delimit_backslash,
        delimit_of_plain (isPlain_of_alphanum hdigits), Option.map_map]
      rfl
  | plain hquote hbackslash _ =>
      have hplain : ∀ b ∈ bytesOf [c], IsPlain b := by
        rw [bytesOf_cons, bytesOf_nil, List.append_nil]
        exact fun b hb => isPlain_of_mem hquote hbackslash hb
      exact delimit_of_plain hplain rest

/-- The content of a string that is written ends at the quote after it. -/
theorem delimit_content (cs : List Char) (rest : Bytes) :
    delimit (bytesOf (cs.flatMap escape) ++ '\x22'.toUInt8 :: rest) =
      some (bytesOf (cs.flatMap escape), rest) := by
  induction cs with
  | nil =>
      rw [delimit.eq_def]
      rfl
  | cons c cs ih =>
      rw [List.flatMap_cons, bytesOf_append, List.append_assoc, delimit_escape, ih]
      rfl

/-! ## The characters of the content -/

/-- An escaped character stands for itself. -/
theorem unescapeAll?_escape (c : Char) (rest : List Char) :
    unescapeAll? none (escape c ++ rest) = (unescapeAll? none rest).map (c :: ·) := by
  have hescaped := escaped c
  generalize escape c = written at hescaped ⊢
  cases hescaped with
  | @letter x _ hother hstands =>
      rw [List.cons_append, List.cons_append, List.nil_append,
        unescapeAll?.eq_4 _ _ _ fun _ _ _ _ _ hu _ => hother hu, hstands]
  | @unit high low hcontrol _ hstands =>
      have hhalves : isHighHalf c.toNat = false ∧ isLowHalf c.toNat = false := by
        simp only [isHighHalf, isLowHalf, Bool.and_eq_false_iff, decide_eq_false_iff_not]
        omega
      simp only [List.cons_append, List.nil_append, unescapeAll?, hstands, hhalves.1, hhalves.2,
        Bool.false_eq_true, if_false, Char.ofNat_toNat]
  | plain hquote hbackslash hvisible =>
      have hkept : ¬(c = '\\' ∨ c.toNat < 0x20) := not_or.mpr ⟨hbackslash, not_lt.mpr hvisible⟩
      rw [List.cons_append, List.nil_append,
        unescapeAll?.eq_5 _ _ (fun _ _ _ _ _ hc _ => hbackslash hc) fun _ _ hc _ => hbackslash hc,
        if_neg hkept]

theorem unescapeAll?_flatMap (cs : List Char) :
    unescapeAll? none (cs.flatMap escape) = some cs := by
  induction cs with
  | nil => rfl
  | cons c cs ih => rw [List.flatMap_cons, unescapeAll?_escape, ih, Option.map_some]

/-- A content without a backslash has nothing escaped in it. -/
theorem flatMap_escape_of_not_mem {cs : List Char} (h : '\\' ∉ cs.flatMap escape) :
    cs.flatMap escape = cs := by
  induction cs with
  | nil => rfl
  | cons c cs ih =>
      rw [List.flatMap_cons, List.mem_append, not_or] at h
      have hself : escape c = [c] := by
        have hescaped := escaped c
        generalize escape c = written at hescaped h
        cases hescaped with
        | letter _ _ _ => simp at h
        | unit _ _ _ => simp at h
        | plain _ _ _ => rfl
      rw [List.flatMap_cons, ih h.2, hself]
      rfl

/-- The text of a content that is written. -/
theorem ofContent?_flatMap (cs : List Char) :
    ofContent? (bytesOf (cs.flatMap escape)) = some (String.ofList cs) := by
  simp only [ofContent?, ofUtf8?_bytesOf, Option.bind_eq_bind, Option.bind_some,
    String.toList_ofList]
  split
  · rw [unescapeAll?_flatMap, Option.map_some]
  · next h => rw [flatMap_escape_of_not_mem (by simpa using h)]

/-- A string is read back from its quoted form. -/
theorem unquote_quote (s : String) (rest : Bytes) :
    ∃ content, bytesOf (quote s) ++ rest = '\x22'.toUInt8 :: content ∧
      unquote content = some (s, rest) := by
  refine ⟨bytesOf (s.toList.flatMap escape) ++ '\x22'.toUInt8 :: rest, ?_, ?_⟩
  · rw [quote, bytesOf_cons, bytesOf_append, List.append_assoc, List.append_assoc]
    rfl
  · rw [unquote, delimit_content]
    simp [ofContent?_flatMap]

end Tombola.Json
