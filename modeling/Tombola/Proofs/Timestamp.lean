import Mathlib
import Tombola.Timestamp

/-!
# The order of points in time

Points in time are ordered as their nanoseconds are, and a duration that can be added moves a time
on by exactly that many seconds.
-/

namespace Tombola.Timestamp

variable {a b : Timestamp}

theorem le_iff : a ≤ b ↔ a.nanos.toNat ≤ b.nanos.toNat := UInt64.le_iff_toNat_le

theorem lt_iff : a < b ↔ a.nanos.toNat < b.nanos.toNat := UInt64.lt_iff_toNat_lt

theorem eq_iff : a = b ↔ a.nanos.toNat = b.nanos.toNat := by
  rw [Timestamp.ext_iff, UInt64.toNat_inj]

instance : LinearOrder Timestamp where
  le_refl a := le_iff.mpr (Nat.le_refl _)
  le_trans a b c hab hbc := le_iff.mpr (Nat.le_trans (le_iff.mp hab) (le_iff.mp hbc))
  lt_iff_le_not_ge a b := by
    simp only [le_iff, lt_iff]
    omega
  le_antisymm a b hab hba :=
    eq_iff.mpr (Nat.le_antisymm (le_iff.mp hab) (le_iff.mp hba))
  le_total a b := by
    simp only [le_iff]
    omega
  toDecidableLE := inferInstance
  toDecidableLT := inferInstance
  max_def _ _ := rfl

theorem ofNanos?_eq_some {n : Nat} {t : Timestamp} : ofNanos? n = some t ↔ t.nanos.toNat = n := by
  rw [ofNanos?]
  split
  · next h =>
    constructor
    · rintro ⟨rfl⟩
      exact UInt64.toNat_ofNat_of_lt' h
    · rintro rfl
      simp
  · next h =>
    constructor
    · intro h'
      cases h'
    · intro h'
      exact absurd (h' ▸ t.nanos.toNat_lt) h

theorem addSeconds?_eq_some {t u : Timestamp} {d : Seconds} :
    t.addSeconds? d = some u ↔
      u.nanos.toNat = t.nanos.toNat + d.toNat * nanosPerSecond := ofNanos?_eq_some

theorem addSeconds?_eq_none {t : Timestamp} {d : Seconds} :
    t.addSeconds? d = none ↔ 2 ^ 64 ≤ t.nanos.toNat + d.toNat * nanosPerSecond := by
  simp [addSeconds?, ofNanos?, UInt64.size]

/-- A shorter duration leads to a time that is in range too, and not later. -/
theorem addSeconds?_mono {t u : Timestamp} {d e : Seconds} (h : t.addSeconds? d = some u)
    (hle : e ≤ d) : ∃ v, t.addSeconds? e = some v ∧ v ≤ u := by
  rw [addSeconds?_eq_some] at h
  have hmul : e.toNat * nanosPerSecond ≤ d.toNat * nanosPerSecond :=
    Nat.mul_le_mul_right _ (UInt64.le_iff_toNat_le.mp hle)
  cases he : t.addSeconds? e with
  | none =>
      rw [addSeconds?_eq_none] at he
      have := u.nanos.toNat_lt
      omega
  | some v =>
      rw [addSeconds?_eq_some] at he
      refine ⟨v, rfl, ?_⟩
      rw [le_iff]
      omega

theorem seconds_toNat (t : Timestamp) : t.seconds.toNat = t.nanos.toNat / nanosPerSecond := by
  have h := t.nanos.toNat_lt
  rw [seconds, UInt64.toNat_ofNat_of_lt']
  exact Nat.lt_of_le_of_lt (Nat.div_le_self _ _) h

end Tombola.Timestamp
