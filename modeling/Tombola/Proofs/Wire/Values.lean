import Tombola.Proofs.Value
import Tombola.Proofs.Timestamp
import Tombola.Proofs.Wire.Codec
import Tombola.Wire.Values

/-!
# Values are read back

Amounts, times, fractions and bytes are read back from the strings that they are written as, and
coins, tokens and assets from their objects.
-/

namespace Tombola

open Text (Numeral numeral_toString)

theorem Amount.read?_text (a : Amount) : read? a.text = some a := by
  rw [read?, text, (numeral_toString a.val).lenient?]
  exact ofNat?_eq_some.mpr rfl

/-! ## Fractions -/

namespace Decimal

theorem withZeros_eq (n zeros : Nat) : withZeros n zeros = n * 10 ^ zeros := by
  induction zeros generalizing n with
  | zero => simp [withZeros]
  | succ zeros ih =>
      rw [withZeros, ih, pow_succ]
      ring

theorem ofDigitChars_replicate_zero (k n : Nat) :
    Nat.ofDigitChars 10 (List.replicate k '0') n = n * 10 ^ k := by
  induction k generalizing n with
  | zero => simp
  | succ k ih =>
      rw [List.replicate_succ, Nat.ofDigitChars_cons, ih, pow_succ]
      simp
      ring

/-- A number below ten to the width takes up the width. -/
theorem padded_spec {width n : Nat} (hwidth : 0 < width) (h : n < 10 ^ width) :
    (Text.padded width n).length = width ∧ (∀ c ∈ Text.padded width n, c.isDigit = true) ∧
      Nat.ofDigitChars 10 (Text.padded width n) 0 = n := by
  have hnumeral := numeral_toString n
  have hlength : (toString n).toList.length ≤ width := by
    have hdigits : (toString n).toList = Nat.toDigits 10 n := Nat.toList_repr
    rw [hdigits]
    exact (Nat.length_toDigits_le_iff (by decide) hwidth).mpr h
  refine ⟨?_, ?_, ?_⟩
  · rw [Text.padded, List.length_append, List.length_replicate]
    omega
  · intro c hc
    rcases List.mem_append.mp hc with hc | hc
    · rw [List.eq_of_mem_replicate hc]
      decide
    · exact hnumeral.digits c hc
  · rw [Text.padded, Nat.ofDigitChars_append, ofDigitChars_replicate_zero, Nat.zero_mul]
    exact hnumeral.value

/-- A list is what is left when its zeros at the end are dropped, and the zeros. -/
theorem exists_trailing_zeros (cs : List Char) : ∃ k,
    cs = (cs.reverse.dropWhile (· == '0')).reverse ++ List.replicate k '0' := by
  refine ⟨(cs.reverse.takeWhile (· == '0')).length, ?_⟩
  have hzeros : cs.reverse.takeWhile (· == '0') =
      List.replicate (cs.reverse.takeWhile (· == '0')).length '0' := by
    rw [List.eq_replicate_iff]
    refine ⟨rfl, fun c hc => ?_⟩
    simpa using List.mem_takeWhile_imp hc
  have hsplit := List.takeWhile_append_dropWhile (p := (· == '0')) (l := cs.reverse)
  rw [hzeros] at hsplit
  have hreverse := congrArg List.reverse hsplit
  rw [List.reverse_append, List.reverse_replicate, List.reverse_reverse] at hreverse
  exact hreverse.symm

/-- The places that are left when zeros are dropped at the end stand for the same fraction. -/
theorem fraction_spec {n : Nat} (h : n < scale) :
    let fraction := ((Text.padded places n).reverse.dropWhile (· == '0')).reverse
    fraction.length ≤ places ∧ (∀ c ∈ fraction, c.isDigit = true) ∧
      Nat.ofDigitChars 10 fraction 0 * 10 ^ (places - fraction.length) = n := by
  obtain ⟨hlength, hdigits, hvalue⟩ := padded_spec (by decide : 0 < places) h
  obtain ⟨k, hk⟩ := exists_trailing_zeros (Text.padded places n)
  generalize ((Text.padded places n).reverse.dropWhile (· == '0')).reverse = fraction at hk ⊢
  rw [hk] at hlength hdigits hvalue
  rw [List.length_append, List.length_replicate] at hlength
  rw [Nat.ofDigitChars_append, ofDigitChars_replicate_zero] at hvalue
  have hzeros : places - fraction.length = k := by omega
  exact ⟨by omega, fun c hc => hdigits c (List.mem_append_left _ hc), by rw [hzeros, hvalue]⟩

/-- The whole part ends at the point. -/
theorem span_whole (n : Nat) {rest : List Char} (h : rest = [] ∨ ∃ tail, rest = '.' :: tail) :
    ((toString n).toList ++ rest).span (· != '.') = ((toString n).toList, rest) := by
  have hdigits : ∀ c ∈ (toString n).toList, (c != '.') = true := by
    intro c hc
    rw [bne_iff_ne]
    rintro rfl
    exact absurd ((numeral_toString n).digits '.' hc) (by decide)
  rw [List.span_eq_takeWhile_dropWhile, List.takeWhile_append_of_pos hdigits,
    List.dropWhile_append_of_pos hdigits]
  rcases h with rfl | ⟨tail, rfl⟩ <;> simp

theorem ofUnits?_val (d : Decimal) : ofUnits? d.units.val = some d := by
  rw [ofUnits?, Amount.ofNat?_eq_some.mpr rfl]
  rfl

theorem read?_whole (w : Nat) : read? (toString w) = ofUnits? (w * scale) := by
  have hspan := span_whole w (.inl rfl)
  rw [List.append_nil] at hspan
  rw [read?, hspan]
  simp only [(numeral_toString w).lenient?]

theorem read?_point (w : Nat) {cs : List Char} {f : Nat} (h : Numeral cs f)
    (hlength : cs.length ≤ places) : read? (toString w ++ "." ++ String.ofList cs) =
      ofUnits? (w * scale + f * 10 ^ (places - cs.length)) := by
  have hspan := span_whole w (.inr ⟨cs, rfl⟩)
  have hchars : (toString w ++ "." ++ String.ofList cs).toList =
      (toString w).toList ++ '.' :: cs := by simp
  rw [read?, hchars, hspan]
  simp only [(numeral_toString w).lenient?]
  rw [if_pos hlength, h.lenient?, Option.bind_eq_bind, Option.bind_some, withZeros_eq]

/-- A fraction is read back from its text. -/
theorem read?_text (d : Decimal) : read? d.text = some d := by
  have hscale : 0 < scale := by decide
  have hsum : d.units.val / scale * scale + d.units.val % scale = d.units.val :=
    Nat.div_add_mod' _ _
  have hfraction := fraction_spec (Nat.mod_lt d.units.val hscale)
  dsimp only at hfraction
  rw [text]
  generalize (Text.padded places (d.units.val % scale)).reverse.dropWhile (· == '0') = digits
    at hfraction ⊢
  obtain ⟨hlength, hdigits, hvalue⟩ := hfraction
  split
  · next hempty =>
    have hnone : d.units.val % scale = 0 := by simpa [List.isEmpty_iff.mp hempty] using hvalue.symm
    rw [hnone, Nat.add_zero] at hsum
    rw [read?_whole, hsum, ofUnits?_val]
  · next hne =>
    have hnumeral : Numeral digits.reverse (Nat.ofDigitChars 10 digits.reverse 0) :=
      ⟨fun hnil => hne (by simpa using hnil), hdigits, rfl⟩
    rw [read?_point _ hnumeral hlength, hvalue, hsum, ofUnits?_val]

end Decimal

/-! ## Codecs of values -/

namespace Wire

open Codec

variable {depth : Nat}

theorem sound_amount : amount.Sound (depth + 1) :=
  (sound_ofText Amount.read?_text).named rfl "Uint128"

theorem sound_decimal : decimal.Sound (depth + 1) :=
  (sound_ofText Decimal.read?_text).named rfl "Decimal"

theorem sound_hexBytes : hexBytes.Sound (depth + 1) :=
  (sound_ofText Text.Hex.read?_write).named rfl "HexBinary"

theorem sound_base64Bytes : base64Bytes.Sound (depth + 1) :=
  (sound_ofText Text.Base64.read?_write).named rfl "Binary"

theorem sound_timestamp : timestamp.Sound (depth + 1) := by
  have hnanos (t : Timestamp) :
      (Text.lenient? (toString t.nanos.toNat).toList >>= Timestamp.ofNanos?) = some t := by
    rw [(numeral_toString _).lenient?, Option.bind_eq_bind, Option.bind_some]
    exact Timestamp.ofNanos?_eq_some.mpr rfl
  exact (((sound_ofText hnanos).named rfl "Uint64").remarked rfl).named rfl "Timestamp"

theorem sound_coin : coin.Sound (depth + 2) :=
  (sound_recordOf
    ((Fields.sound_field sound_text "denom" Coin.denom).map Coin.mk |>.seq
      (Fields.sound_field sound_amount "amount" Coin.amount))
    (fun _ => rfl) (by decide) false).named rfl "Coin"

theorem sound_token (typeName : String) : (token typeName).Sound (depth + 2) :=
  (sound_recordOf
    ((Fields.sound_field sound_text "address" Token.collection).map Token.mk |>.seq
      (Fields.sound_field sound_text "token_id" Token.id))
    (fun _ => rfl) (by decide) true).named rfl typeName

theorem sound_asset : asset.Sound (depth + 3) := by
  refine (sound_variants ?_ (by decide) ?_ (by decide)).named rfl "AssetInfo"
  · simp only [List.forall_mem_cons]
    refine ⟨Case.sound_case (sound_token _) ?_ _ _, Case.sound_case (sound_token _) ?_ _ _,
      Case.sound_case sound_coin ?_ _ _, nofun⟩
    all_goals
      intro a t h
      cases a
      all_goals cases h
      rfl
  · intro a
    cases a <;> rfl

theorem present_asset : asset.Present := by
  intro a
  cases a <;> exact nofun

end Wire

end Tombola
