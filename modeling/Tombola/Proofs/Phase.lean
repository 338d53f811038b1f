import Tombola.Contract.Randomness
import Tombola.Proofs.Outcome
import Tombola.Proofs.Timestamp

/-!
# When a raffle is in a phase

For each phase, the flags, the schedule and the randomness that it stands for. The phase is
undefined exactly when a raffle that is not settled has reached its start and its closing time is
out of range.
-/

namespace Tombola.Raffle

variable {r : Raffle} {now : Timestamp}

/-- Neither cancelled nor claimed: the contract still holds what the raffle is about. -/
def Unsettled (r : Raffle) : Prop := r.cancelled = false ∧ r.claimed = false

theorem closing?_eq_some {c : Timestamp} :
    r.closing? = some c ↔ c.nanos.toNat =
      r.options.start.nanos.toNat + r.options.duration.toNat * Timestamp.nanosPerSecond :=
  Timestamp.addSeconds?_eq_some

theorem start_le_closing {c : Timestamp} (h : r.closing? = some c) : r.options.start ≤ c := by
  rw [closing?_eq_some] at h
  rw [Timestamp.le_iff, h]
  exact Nat.le_add_right _ _

theorem phase?_of_before_start (hr : r.Unsettled) (hs : now < r.options.start) :
    r.phase? now = some .created := by
  simp [phase?, hr.1, hr.2, hs]

theorem phase?_of_started (hr : r.Unsettled) (hs : r.options.start ≤ now) :
    r.phase? now = r.closing?.map fun c =>
      if now < c then .started else if r.randomness.isNone then .closed else .finished := by
  simp [phase?, hr.1, hr.2, not_lt.mpr hs]

theorem unsettled_of_phase? {p : Phase} (h : r.phase? now = some p) (hc : p ≠ .cancelled)
    (hd : p ≠ .claimed) : r.Unsettled := by
  unfold phase? at h
  split at h
  · exact absurd (Option.some.inj h).symm hc
  · split at h
    · exact absurd (Option.some.inj h).symm hd
    · next h₁ h₂ => exact ⟨by simpa using h₁, by simpa using h₂⟩

theorem phase?_eq_created : r.phase? now = some .created ↔ r.Unsettled ∧ now < r.options.start := by
  constructor
  · intro h
    have hr : r.Unsettled := unsettled_of_phase? h (by simp) (by simp)
    refine ⟨hr, ?_⟩
    by_contra hs
    rw [phase?_of_started hr (not_lt.mp hs)] at h
    obtain ⟨c, _, h⟩ := Option.map_eq_some_iff.mp h
    split at h
    · cases h
    · split at h <;> cases h
  · rintro ⟨hr, hs⟩
    exact phase?_of_before_start hr hs

/-- Once the start is reached, a phase tells where the closing time lies. -/
theorem phase?_eq_some_of_started {p : Phase} (hr : r.Unsettled) (hs : r.options.start ≤ now) :
    r.phase? now = some p ↔ ∃ c, r.closing? = some c ∧
      (if now < c then .started else if r.randomness.isNone then .closed else .finished) = p := by
  rw [phase?_of_started hr hs, Option.map_eq_some_iff]

theorem start_le_of_phase? {p : Phase} (h : r.phase? now = some p) (hr : r.Unsettled)
    (hp : p ≠ .created) : r.options.start ≤ now := by
  by_contra hs
  rw [phase?_of_before_start hr (not_le.mp hs)] at h
  exact hp (Option.some.inj h).symm

theorem phase?_eq_started : r.phase? now = some .started ↔
    r.Unsettled ∧ r.options.start ≤ now ∧ ∃ c, r.closing? = some c ∧ now < c := by
  constructor
  · intro h
    have hr : r.Unsettled := unsettled_of_phase? h (by simp) (by simp)
    have hs := start_le_of_phase? h hr (by simp)
    obtain ⟨c, hc, hp⟩ := (phase?_eq_some_of_started hr hs).mp h
    refine ⟨hr, hs, c, hc, ?_⟩
    by_contra hn
    rw [if_neg hn] at hp
    split at hp <;> cases hp
  · rintro ⟨hr, hs, c, hc, hn⟩
    exact (phase?_eq_some_of_started hr hs).mpr ⟨c, hc, if_pos hn⟩

theorem phase?_eq_closed : r.phase? now = some .closed ↔
    r.Unsettled ∧ r.randomness = none ∧ ∃ c, r.closing? = some c ∧ c ≤ now := by
  constructor
  · intro h
    have hr : r.Unsettled := unsettled_of_phase? h (by simp) (by simp)
    have hs := start_le_of_phase? h hr (by simp)
    obtain ⟨c, hc, hp⟩ := (phase?_eq_some_of_started hr hs).mp h
    split at hp
    · cases hp
    · next hn =>
      split at hp
      · next hz => exact ⟨hr, by simpa using hz, c, hc, not_lt.mp hn⟩
      · cases hp
  · rintro ⟨hr, hz, c, hc, hn⟩
    refine (phase?_eq_some_of_started hr (le_trans (start_le_closing hc) hn)).mpr ⟨c, hc, ?_⟩
    simp [not_lt.mpr hn, hz]

theorem phase?_eq_finished : r.phase? now = some .finished ↔
    r.Unsettled ∧ r.randomness.isSome ∧ ∃ c, r.closing? = some c ∧ c ≤ now := by
  constructor
  · intro h
    have hr : r.Unsettled := unsettled_of_phase? h (by simp) (by simp)
    have hs := start_le_of_phase? h hr (by simp)
    obtain ⟨c, hc, hp⟩ := (phase?_eq_some_of_started hr hs).mp h
    split at hp
    · cases hp
    · next hn =>
      split at hp
      · cases hp
      · next hz => exact ⟨hr, by simpa [Option.isSome_iff_ne_none] using hz, c, hc, not_lt.mp hn⟩
  · rintro ⟨hr, hz, c, hc, hn⟩
    refine (phase?_eq_some_of_started hr (le_trans (start_le_closing hc) hn)).mpr ⟨c, hc, ?_⟩
    obtain ⟨z, hz⟩ := Option.isSome_iff_exists.mp hz
    simp [not_lt.mpr hn, hz]

/-- A raffle that can be cancelled, before its start or once it has closed, is not settled. -/
theorem unsettled_of_cancellable {late : Prop}
    (h : r.phase? now = some .created ∨ r.phase? now = some .closed ∧ late) : r.Unsettled := by
  rcases h with h | ⟨h, _⟩
  · exact (phase?_eq_created.mp h).1
  · exact (phase?_eq_closed.mp h).1

/-- A raffle that is not settled is in one of the phases before that. -/
theorem ne_of_unsettled {p : Phase} (hr : r.Unsettled) (h : r.phase? now = some p) :
    p ≠ .cancelled ∧ p ≠ .claimed := by
  by_cases hs : r.options.start ≤ now
  · obtain ⟨c, _, rfl⟩ := (phase?_eq_some_of_started hr hs).mp h
    split
    · simp
    · split <;> simp
  · rw [phase?_of_before_start hr (not_le.mp hs)] at h
    obtain rfl := Option.some.inj h
    simp

theorem phase?_eq_cancelled : r.phase? now = some .cancelled ↔ r.cancelled = true := by
  constructor
  · intro h
    by_contra hc
    have hcancelled : r.cancelled = false := eq_false_of_ne_true hc
    by_cases hd : r.claimed = true
    · simp [phase?, hcancelled, hd] at h
    · exact (ne_of_unsettled ⟨hcancelled, eq_false_of_ne_true hd⟩ h).1 rfl
  · intro hc
    simp [phase?, hc]

theorem phase?_eq_claimed : r.phase? now = some .claimed ↔
    r.cancelled = false ∧ r.claimed = true := by
  constructor
  · intro h
    have hcancelled : r.cancelled = false := by
      by_contra hc
      rw [phase?_eq_cancelled.mpr (eq_true_of_ne_false hc)] at h
      cases h
    refine ⟨hcancelled, ?_⟩
    by_contra hd
    exact (ne_of_unsettled ⟨hcancelled, eq_false_of_ne_true hd⟩ h).2 rfl
  · rintro ⟨hc, hd⟩
    simp [phase?, hc, hd]

theorem phase?_eq_none : r.phase? now = none ↔
    r.Unsettled ∧ r.options.start ≤ now ∧ r.closing? = none := by
  constructor
  · intro h
    unfold phase? at h
    split at h
    · cases h
    · split at h
      · cases h
      · split at h
        · cases h
        · next h₁ h₂ h₃ =>
          exact ⟨⟨by simpa using h₁, by simpa using h₂⟩, not_lt.mp h₃, Option.map_eq_none_iff.mp h⟩
  · rintro ⟨hr, hs, hc⟩
    rw [phase?_of_started hr hs, hc, Option.map_none]

end Tombola.Raffle

namespace Tombola.Contract

theorem ensurePhase_eq_ok {r : Raffle} {now : Timestamp} {phase : Phase} {action : Action}
    {u : Unit} : ensurePhase r now phase action = .ok u ↔ r.phase? now = some phase := by
  simp [ensurePhase, Outcome.bind_eq_ok, Outcome.orAbort_eq_ok, Outcome.ensure_eq_ok]

end Tombola.Contract
