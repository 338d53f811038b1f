import Tombola.Job

/-!
# Ids of randomness jobs

The id of a job tells the raffle and the attempt: numbers are written without a hyphen.
-/

namespace Tombola.Job

theorem hyphen_notMem_repr (n : Nat) : '-' ∉ (toString n).toList := by
  intro h
  have hdigit := Nat.isDigit_of_mem_toDigits (by decide) (by decide) (Nat.toList_repr ▸ h)
  exact absurd hdigit (by decide)

/-- A number ends where a hyphen, or nothing, follows. -/
theorem takeWhile_repr (n : Nat) {rest : List Char} (h : rest.takeWhile (· != '-') = []) :
    ((toString n).toList ++ rest).takeWhile (· != '-') = (toString n).toList := by
  rw [List.takeWhile_append_of_pos, h, List.append_nil]
  intro c hc
  rw [bne_iff_ne]
  rintro rfl
  exact hyphen_notMem_repr n hc

theorem toString_inj {m n : Nat} (h : (toString m).toList = (toString n).toList) : m = n := by
  have hdigits : Nat.toDigits 10 m = Nat.toDigits 10 n := by
    rw [← Nat.toList_repr, ← Nat.toList_repr]
    exact h
  rw [← Nat.ofDigitChars_toDigits (b := 10) (n := m) (by decide) (by decide), hdigits,
    Nat.ofDigitChars_toDigits (by decide) (by decide)]

/-- What follows the name in an id: the raffle, and the attempt from the second on. -/
def suffix (raffle : RaffleId) (attempt : UInt32) : List Char :=
  if attempt = 0 then (toString raffle.toNat).toList
  else (toString raffle.toNat).toList ++ '-' :: (toString attempt.toNat).toList

theorem toList_id (raffle : RaffleId) (attempt : UInt32) :
    (id raffle attempt).toList = "raffle-".toList ++ suffix raffle attempt := by
  unfold id suffix
  split
  · rw [String.toList_append]
  · rw [String.toList_append, String.toList_append, String.toList_append, List.append_assoc,
      List.append_assoc]
    rfl

/-- The part of a suffix before the hyphen is the raffle. -/
theorem takeWhile_suffix (raffle : RaffleId) (attempt : UInt32) :
    (suffix raffle attempt).takeWhile (· != '-') = (toString raffle.toNat).toList := by
  unfold suffix
  split
  · have hend := takeWhile_repr raffle.toNat List.takeWhile_nil
    rwa [List.append_nil] at hend
  · exact takeWhile_repr _ (List.takeWhile_cons_of_neg (by simp))

/-- Jobs of different raffles, and different attempts of one raffle, have different ids. -/
theorem id_inj {r r' : RaffleId} {a a' : UInt32} (h : id r a = id r' a') : r = r' ∧ a = a' := by
  have hlist : "raffle-".toList ++ suffix r a = "raffle-".toList ++ suffix r' a' := by
    rw [← toList_id, ← toList_id, h]
  have hsuffix := List.append_cancel_left hlist
  have hr : r = r' := by
    apply UInt64.toNat_inj.mp
    apply toString_inj
    rw [← takeWhile_suffix r a, ← takeWhile_suffix r' a', hsuffix]
  subst hr
  refine ⟨rfl, ?_⟩
  unfold suffix at hsuffix
  by_cases ha : a = 0 <;> by_cases ha' : a' = 0
  · rw [ha, ha']
  · rw [if_pos ha, if_neg ha'] at hsuffix
    simp at hsuffix
  · rw [if_neg ha, if_pos ha'] at hsuffix
    simp at hsuffix
  · rw [if_neg ha, if_neg ha'] at hsuffix
    have htail := List.append_cancel_left hsuffix
    exact UInt32.toNat_inj.mp (toString_inj (List.cons.inj htail).2)

end Tombola.Job
