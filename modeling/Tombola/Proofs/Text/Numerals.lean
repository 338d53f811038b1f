import Tombola.Json.Basic
import Tombola.Text.Base64
import Tombola.Text.Digits
import Tombola.Proofs.Text.Bytes

/-!
# Numbers and bytes are read back from their texts

Decimal digits, hexadecimal digits and the symbols of base64 are read as what they were written for.
-/

namespace Tombola.Text

/-! ## Decimal digits -/

/-- A run of digits with the number that they stand for. -/
structure Numeral (cs : List Char) (n : Nat) : Prop where
  nonempty : cs ≠ []
  digits : ∀ c ∈ cs, c.isDigit = true
  value : Nat.ofDigitChars 10 cs 0 = n

theorem digit?_of_isDigit {c : Char} (h : c.isDigit = true) :
    digit? c = some (c.toNat - '0'.toNat) := by
  rw [Char.isDigit, Bool.and_eq_true, decide_eq_true_eq, decide_eq_true_eq] at h
  exact if_pos h

theorem foldlM_digits {cs : List Char} (h : ∀ c ∈ cs, c.isDigit = true) (n : Nat) :
    cs.foldlM (fun n c => (digit? c).map (10 * n + ·)) n = some (Nat.ofDigitChars 10 cs n) := by
  induction cs generalizing n with
  | nil => rfl
  | cons c cs ih =>
      obtain ⟨hc, hcs⟩ := List.forall_mem_cons.mp h
      rw [List.foldlM_cons, digit?_of_isDigit hc, Nat.ofDigitChars_cons]
      exact ih hcs _

theorem numeral_toString (n : Nat) : Numeral (toString n).toList n := by
  have hdigits : (toString n).toList = Nat.toDigits 10 n := Nat.toList_repr
  rw [hdigits]
  exact ⟨Nat.toDigits_ne_nil, fun _ hc => Nat.isDigit_of_mem_toDigits (by decide) (by decide) hc,
    Nat.ofDigitChars_toDigits (by decide) (by decide)⟩

namespace Numeral

variable {cs : List Char} {n : Nat}

theorem digits? (h : Numeral cs n) : Text.digits? cs = some n := by
  have hfold := foldlM_digits h.digits 0
  rw [h.value] at hfold
  cases cs with
  | nil => exact absurd rfl h.nonempty
  | cons c cs => exact hfold

/-- No sign is read at the start of a numeral. -/
theorem lenient? (h : Numeral cs n) : Text.lenient? cs = some n := by
  have hsign : ∀ rest, cs = '+' :: rest → False := by
    rintro rest rfl
    exact absurd (h.digits '+' List.mem_cons_self) (by decide)
  rw [Text.lenient?.eq_2 cs hsign, h.digits?]

end Numeral

/-- Only zero is written with a zero in front. -/
theorem head_toDigits {n : Nat} (h : n ≠ 0) {c : Char} {cs : List Char}
    (hcs : Nat.toDigits 10 n = c :: cs) : c ≠ '0' := by
  induction n using Nat.strong_induction_on generalizing cs with
  | _ n ih =>
    rw [Nat.toDigits_eq_if (by decide)] at hcs
    split at hcs
    · next hlt =>
      obtain ⟨rfl, _⟩ := List.cons.inj hcs
      have hall : ∀ d, d < 10 → d ≠ 0 → d.digitChar ≠ '0' := by decide
      exact hall n hlt h
    · next hlt =>
      cases htens : Nat.toDigits 10 (n / 10) with
      | nil => exact absurd htens Nat.toDigits_ne_nil
      | cons d ds =>
          rw [htens, List.cons_append] at hcs
          obtain ⟨rfl, _⟩ := List.cons.inj hcs
          exact ih (n / 10) (by omega) (by omega) htens

/-- A number is read strictly as it is written. -/
theorem strict?_toString (n : Nat) : strict? (toString n).toList = some n := by
  have hnumeral := numeral_toString n
  by_cases h : n = 0
  · subst h
    rfl
  · have hzero : ∀ rest, (toString n).toList = '0' :: rest → False := by
      intro rest hrest
      exact head_toDigits h (Nat.toList_repr.symm.trans hrest) rfl
    rw [strict?.eq_3 _ (hzero []) hzero, hnumeral.digits?]

/-! ## Hexadecimal text -/

namespace Hex

theorem digit?_lowerDigit : ∀ n, n < 16 → digit? (lowerDigit n).toUInt8.toNat = some n := by
  decide

theorem isAlphanum_lowerDigit : ∀ n, n < 16 → (lowerDigit n).isAlphanum = true := by decide

/-- The bytes of the digits of bytes. -/
theorem utf8_write (bs : Bytes) : utf8 (write bs) = bs.flatMap fun b =>
    [(lowerDigit (b.toNat / 16)).toUInt8, (lowerDigit (b.toNat % 16)).toUInt8] := by
  rw [write, utf8_ofList]
  induction bs with
  | nil => rfl
  | cons b bs ih =>
      have hlt := b.toNat_lt
      have hhigh := isAlphanum_lowerDigit (b.toNat / 16) (by omega)
      have hlow := isAlphanum_lowerDigit (b.toNat % 16) (by omega)
      rw [writeChars, List.flatMap_cons, List.flatMap_cons, bytesOf_append, ← writeChars, ih,
        bytesOf_cons, bytesOf_cons, utf8EncodeChar_ascii (ascii_of_isAlphanum hhigh),
        utf8EncodeChar_ascii (ascii_of_isAlphanum hlow)]
      rfl

theorem readFrom_digits (bs : Bytes) (position : Nat) :
    readFrom position (bs.flatMap fun b =>
      [(lowerDigit (b.toNat / 16)).toUInt8, (lowerDigit (b.toNat % 16)).toUInt8]) = .ok bs := by
  induction bs generalizing position with
  | nil => rfl
  | cons b bs ih =>
      have hlt := b.toNat_lt
      have hbyte : UInt8.ofNat (16 * (b.toNat / 16) + b.toNat % 16) = b := by
        rw [Nat.div_add_mod, UInt8.ofNat_toNat]
      rw [List.flatMap_cons, List.cons_append, List.cons_append, List.nil_append, readFrom]
      simp only [digit?_lowerDigit (b.toNat / 16) (by omega),
        digit?_lowerDigit (b.toNat % 16) (by omega), ih, Except.map, hbyte]

/-- Bytes are read back from their digits. -/
theorem read?_write (bs : Bytes) : read? (write bs) = some bs := by
  have heven : (bs.flatMap fun b => [(lowerDigit (b.toNat / 16)).toUInt8,
      (lowerDigit (b.toNat % 16)).toUInt8]).length % 2 = 0 := by
    simp [List.length_flatMap]
  rw [read?, read, utf8_write]
  simp only [heven, if_true, readFrom_digits]
  rfl

end Hex

/-! ## Base64 text -/

namespace Base64

/-- The numbers that the symbols stand for. -/
def sextets : Bytes → List Nat
  | [] => []
  | [a] => [a.toNat / 4, a.toNat % 4 * 16]
  | [a, b] => [a.toNat / 4, a.toNat % 4 * 16 + b.toNat / 16, b.toNat % 16 * 4]
  | a :: b :: c :: rest => a.toNat / 4 :: (a.toNat % 4 * 16 + b.toNat / 16) ::
      (b.toNat % 16 * 4 + c.toNat / 64) :: c.toNat % 64 :: sextets rest

/-- How many symbols are missing from the last group. -/
def padding : Bytes → Nat
  | [] => 0
  | [_] => 2
  | [_, _] => 1
  | _ :: _ :: _ :: rest => padding rest

theorem writeChars_eq (bs : Bytes) :
    writeChars bs = (sextets bs).map symbol ++ List.replicate (padding bs) '=' := by
  fun_induction writeChars bs with
  | case1 => rfl
  | case2 => rfl
  | case3 => rfl
  | case4 a b c rest ih => rw [ih]; rfl

theorem sextets_lt (bs : Bytes) : ∀ n ∈ sextets bs, n < 64 := by
  fun_induction sextets bs with
  | case1 => nofun
  | case2 a =>
      have ha := a.toNat_lt
      simp only [List.forall_mem_cons]
      exact ⟨by omega, by omega, nofun⟩
  | case3 a b =>
      have ha := a.toNat_lt
      have hb := b.toNat_lt
      simp only [List.forall_mem_cons]
      exact ⟨by omega, by omega, by omega, nofun⟩
  | case4 a b c rest ih =>
      have ha := a.toNat_lt
      have hb := b.toNat_lt
      have hc := c.toNat_lt
      simp only [List.forall_mem_cons]
      exact ⟨by omega, by omega, by omega, by omega, ih⟩

theorem value?_symbol : ∀ n, n < 64 → value? (symbol n) = some n := by decide

theorem symbol_ne_pad : ∀ n, n < 64 → (symbol n != '=') = true := by decide

theorem ofNat_eq {n : Nat} {b : UInt8} (h : n = b.toNat) : UInt8.ofNat n = b := by
  rw [h, UInt8.ofNat_toNat]

/-- Four sextets hold three bytes, and the last of fewer holds zeros where no byte is. -/
theorem ofValues?_sextets (bs : Bytes) : ofValues? (sextets bs) = some bs := by
  fun_induction sextets bs with
  | case1 => rfl
  | case2 a =>
      have ha : UInt8.ofNat (a.toNat / 4 * 4 + a.toNat % 4 * 16 / 16) = a := ofNat_eq (by omega)
      rw [ofValues?, if_pos (by omega), ha]
  | case3 a b =>
      have hlt := b.toNat_lt
      have ha : UInt8.ofNat (a.toNat / 4 * 4 + (a.toNat % 4 * 16 + b.toNat / 16) / 16) = a :=
        ofNat_eq (by omega)
      have hb : UInt8.ofNat ((a.toNat % 4 * 16 + b.toNat / 16) % 16 * 16 +
          b.toNat % 16 * 4 / 4) = b := ofNat_eq (by omega)
      rw [ofValues?, if_pos (by omega), ha, hb]
  | case4 a b c rest ih =>
      have hltb := b.toNat_lt
      have hltc := c.toNat_lt
      have ha : UInt8.ofNat (a.toNat / 4 * 4 + (a.toNat % 4 * 16 + b.toNat / 16) / 16) = a :=
        ofNat_eq (by omega)
      have hb : UInt8.ofNat ((a.toNat % 4 * 16 + b.toNat / 16) % 16 * 16 +
          (b.toNat % 16 * 4 + c.toNat / 64) / 4) = b := ofNat_eq (by omega)
      have hc : UInt8.ofNat ((b.toNat % 16 * 4 + c.toNat / 64) % 4 * 64 + c.toNat % 64) = c :=
        ofNat_eq (by omega)
      rw [ofValues?, ih]
      simp only [Option.bind_eq_bind, Option.bind_some, ha, hb, hc]
      rfl

theorem paddingFits_sextets (bs : Bytes) :
    paddingFits (sextets bs).length (padding bs) = true := by
  fun_induction sextets bs with
  | case1 => rfl
  | case2 => rfl
  | case3 => rfl
  | case4 a b c rest ih =>
      have hgroup : ((sextets rest).length + 4) % 4 = (sextets rest).length % 4 :=
        Nat.add_mod_right _ _
      simpa only [paddingFits, padding, List.length_cons, hgroup] using ih

theorem mapM_value?_symbol {values : List Nat} (h : ∀ n ∈ values, n < 64) :
    (values.map symbol).mapM value? = some values := by
  induction values with
  | nil => rfl
  | cons n values ih =>
      obtain ⟨hn, hvalues⟩ := List.forall_mem_cons.mp h
      rw [List.map_cons, List.mapM_cons, value?_symbol n hn, ih hvalues]
      rfl

/-- Bytes are read back from their symbols. -/
theorem read?_write (bs : Bytes) : read? (write bs) = some bs := by
  have hsymbols : ∀ c ∈ (sextets bs).map symbol, (c != '=') = true := by
    intro c hc
    obtain ⟨n, hn, rfl⟩ := List.mem_map.mp hc
    exact symbol_ne_pad n (sextets_lt bs n hn)
  have hspan : (writeChars bs).span (· != '=') =
      ((sextets bs).map symbol, List.replicate (padding bs) '=') := by
    rw [writeChars_eq, List.span_eq_takeWhile_dropWhile, List.takeWhile_append_of_pos hsymbols,
      List.dropWhile_append_of_pos hsymbols, List.takeWhile_replicate, List.dropWhile_replicate]
    simp
  have hpads : (List.replicate (padding bs) '=').all (· == '=') = true := by simp
  rw [read?, write, String.toList_ofList, readChars?, hspan]
  simp only [List.length_map, List.length_replicate, hpads, paddingFits_sextets, Bool.and_self,
    if_true, mapM_value?_symbol (sextets_lt bs), Option.bind_eq_bind, Option.bind_some,
    ofValues?_sextets]

end Base64

end Tombola.Text
