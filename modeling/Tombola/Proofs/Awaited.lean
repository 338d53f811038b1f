import Tombola.Proofs.Change
import Tombola.Proofs.Job

/-!
# The jobs that raffles wait for

A raffle waits for a job whose id names the raffle. So what happens to one raffle does not touch the
jobs of another, and the two tables of jobs match: a raffle waits for a job exactly when the job is
kept as one of that raffle. A raffle that waits is neither settled nor has its randomness.
-/

namespace Tombola

open Contract

/-- The id of a job that a raffle waits for names the raffle. -/
def Store.Named (s : Store) : Prop :=
  ∀ id j, s.awaited.get? id = some j → ∃ attempt, j = Job.id id attempt

/-- What a change does to the two tables of jobs: nothing, or it makes the raffle that it is about
forget its job, or wait for a new one. -/
inductive JobsChange (s : Store) (now : Timestamp) : Option RaffleId → Store → Prop
  | kept {focus s'} (awaited : s'.awaited = s.awaited) (jobs : s'.jobs = s.jobs) :
      JobsChange s now focus s'
  | cleared {id} {entered : Store} (awaited : entered.awaited = s.awaited)
      (jobs : entered.jobs = s.jobs) :
      JobsChange s now (some id) (entered.clearJob id)
  | requested {config id attempt after} {entered : Store} (awaited : entered.awaited = s.awaited)
      (jobs : entered.jobs = s.jobs) :
      JobsChange s now (some id) (requestRandomness entered now config id attempt after).1

variable {clock : Clock} {now : Timestamp} {s s' : Store} {t : Turn} {focus : Option RaffleId}
  {id other : RaffleId} {attempt : UInt32}

theorem Change.jobs (h : Change s t focus s') : JobsChange s t.now focus s' := by
  cases h with
  | idle => exact .kept rfl rfl
  | version => exact .kept rfl rfl
  | settings => exact .kept rfl rfl
  | creation h =>
      obtain rfl := h.store
      exact .kept rfl rfl
  | autocycle h h' =>
      obtain rfl := h'.store
      obtain rfl := h.store
      exact .requested rfl rfl
  | modification h =>
      obtain rfl := h.store
      exact .kept rfl rfl
  | sale h =>
      obtain rfl := h.store
      exact .kept rfl rfl
  | inquiry h =>
      obtain rfl := h.store
      exact .requested rfl rfl
  | draw h =>
      obtain rfl := h.store
      exact .cleared rfl rfl
  | cancellation h =>
      obtain rfl := h.store
      exact .cleared rfl rfl
  | claim h =>
      obtain rfl := h.store
      exact .kept rfl rfl

namespace Store.Named

theorem not_awaited (hs : s.Named) (hne : other ≠ id) :
    s.awaited.get? id ≠ some (Job.id other attempt) := by
  intro h
  obtain ⟨attempt', heq⟩ := hs _ _ h
  exact hne (Job.id_inj heq).1

/-- Every change keeps the names of the jobs in order. -/
theorem change (hs : s.Named) (hc : Change s t focus s') : s'.Named := by
  intro other j h
  cases hc.jobs with
  | kept awaited _ => exact hs other j (awaited ▸ h)
  | cleared awaited _ =>
      rw [awaited_clearJob, awaited] at h
      split at h
      · cases h
      · exact hs other j h
  | @requested _ _ attempt _ _ awaited _ =>
      rw [awaited_requestRandomness, awaited] at h
      split at h
      · next ho => exact ⟨attempt, ho ▸ (Option.some.inj h).symm⟩
      · exact hs other j h

end Store.Named

theorem Reachable.named (h : Reachable clock now s) : s.Named := by
  apply h.invariant (P := fun _ s => s.Named)
  · intro now config _ _ _ id j
    nofun
  · intro now now' s _ hs
    exact hs
  · intro t s s' focus hs hc
    exact hs.change hc

/-- A change keeps the jobs of the raffles that it is not about. -/
theorem Change.jobs_agree (h : Change s t focus s') (hs : s.Named) (hid : focus ≠ some other)
    (attempt : UInt32) :
    s'.jobs.get? (Job.id other attempt) = s.jobs.get? (Job.id other attempt) := by
  cases h.jobs with
  | kept _ jobs => rw [jobs]
  | cleared awaited jobs =>
      rw [Store.jobs_clearJob, awaited, jobs, if_neg (hs.not_awaited (ne_of_focus hid))]
  | requested awaited jobs =>
      have hne := ne_of_focus hid
      rw [jobs_requestRandomness, awaited, jobs, if_neg fun h => hne (Job.id_inj h).1,
        if_neg (hs.not_awaited hne)]

/-! ## The two tables match -/

namespace Store

/-- The job that a raffle waits for is kept as that attempt of the raffle, and every job that is
kept is the one that its raffle waits for. -/
structure Matched (s : Store) : Prop where
  named : s.Named
  kept : ∀ id attempt, s.awaited.get? id = some (Job.id id attempt) →
    ∃ since, s.jobs.get? (Job.id id attempt) = some ⟨id, since, attempt⟩
  awaited : ∀ j job, s.jobs.get? j = some job → s.awaited.get? job.raffle = some j

/-- A raffle that waits for a job is not settled and has no randomness yet. -/
def Undecided (s : Store) (id : RaffleId) : Prop :=
  ∀ j, s.awaited.get? id = some j →
    ∃ r, s.raffles.get? id = some r ∧ r.Unsettled ∧ r.randomness = none

namespace Matched

/-- A raffle waits for a job exactly when the job is kept as one of the raffle. -/
theorem awaited_iff (hs : s.Matched) {j : JobId} : s.awaited.get? id = some j ↔
    ∃ job, s.jobs.get? j = some job ∧ job.raffle = id := by
  constructor
  · intro h
    obtain ⟨attempt, rfl⟩ := hs.named id j h
    obtain ⟨since, hjob⟩ := hs.kept id attempt h
    exact ⟨_, hjob, rfl⟩
  · rintro ⟨job, hjob, rfl⟩
    exact hs.awaited j job hjob

/-- A job that is kept has the id that its raffle and its attempt give it. -/
theorem id_eq (hs : s.Matched) {j : JobId} {job : Job} (h : s.jobs.get? j = some job) :
    j = Job.id job.raffle job.attempt := by
  have hawaited := hs.awaited j job h
  obtain ⟨attempt, rfl⟩ := hs.named _ j hawaited
  obtain ⟨since, hjob⟩ := hs.kept _ attempt hawaited
  rw [hjob] at h
  rw [← Option.some.inj h]

/-- A job that a raffle waits for is one of that raffle. -/
theorem raffle_eq (hs : s.Matched) {j : JobId} {job : Job}
    (hawaited : s.awaited.get? id = some j) (hjob : s.jobs.get? j = some job) :
    job.raffle = id := by
  obtain ⟨attempt, rfl⟩ := hs.named id j hawaited
  exact (Job.id_inj (hs.id_eq hjob)).1.symm

/-- After a change the job that a raffle waits for is still kept. -/
theorem kept_of_change (hs : s.Matched) (hc : Change s t focus s')
    (h : s'.awaited.get? other = some (Job.id other attempt)) :
    ∃ since, s'.jobs.get? (Job.id other attempt) = some ⟨other, since, attempt⟩ := by
  cases hc.jobs with
  | kept awaited jobs =>
      rw [jobs]
      exact hs.kept other attempt (awaited ▸ h)
  | cleared awaited jobs =>
      rw [awaited_clearJob, awaited] at h
      split at h
      · cases h
      · next hne =>
        rw [Store.jobs_clearJob, awaited, jobs, if_neg (hs.named.not_awaited hne)]
        exact hs.kept other attempt h
  | requested awaited jobs =>
      rw [awaited_requestRandomness, awaited] at h
      rw [jobs_requestRandomness, awaited, jobs]
      split at h
      · next heq =>
        subst heq
        obtain rfl := (Job.id_inj (Option.some.inj h)).2
        exact ⟨_, if_pos rfl⟩
      · next hne =>
        rw [if_neg fun h => hne (Job.id_inj h).1, if_neg (hs.named.not_awaited hne)]
        exact hs.kept other attempt h

/-- After a change the raffle of a job that is kept still waits for it. -/
theorem awaited_of_change (hs : s.Matched) (hc : Change s t focus s') {j : JobId} {job : Job}
    (h : s'.jobs.get? j = some job) : s'.awaited.get? job.raffle = some j := by
  cases hc.jobs with
  | kept awaited jobs =>
      rw [awaited]
      exact hs.awaited j job (jobs ▸ h)
  | @cleared id _ awaited jobs =>
      rw [Store.jobs_clearJob, awaited, jobs] at h
      rw [awaited_clearJob, awaited]
      split at h
      · cases h
      · next hfree =>
        have hkept := hs.awaited j job h
        have hne : job.raffle ≠ id := fun heq => hfree (heq ▸ hkept)
        rw [if_neg hne, hkept]
  | @requested _ id _ _ _ awaited jobs =>
      rw [jobs_requestRandomness, awaited, jobs] at h
      rw [awaited_requestRandomness, awaited]
      split at h
      · next hj =>
        obtain rfl := Option.some.inj h
        rw [if_pos rfl, hj]
      · split at h
        · cases h
        · next hfree =>
          have hkept := hs.awaited j job h
          have hne : job.raffle ≠ id := fun heq => hfree (heq ▸ hkept)
          rw [if_neg hne, hkept]

/-- Every change keeps the two tables matched. -/
theorem change (hs : s.Matched) (hc : Change s t focus s') : s'.Matched :=
  ⟨hs.named.change hc, fun _ _ => hs.kept_of_change hc, fun _ _ => hs.awaited_of_change hc⟩

end Matched

/-- Every change keeps a raffle that waits undecided. -/
theorem Undecided.change (h : s.Undecided id) (hc : Change s t focus s') : s'.Undecided id := by
  by_cases hid : focus = some id
  · subst hid
    intro j hj
    cases hc with
    | creation hnew =>
        obtain rfl := hnew.store
        obtain ⟨r, hr, _⟩ := h j hj
        exact absurd hr (hnew.ne_some r)
    | autocycle hnew hcycle =>
        exact ⟨_, hcycle.record hnew.record, hnew.unsettled, by rw [hnew.entered]⟩
    | modification hm =>
        have hrecord := hm.record
        obtain rfl := hm.store
        obtain ⟨r, hr, hopen⟩ := h j hj
        obtain rfl := Option.some.inj (hr.symm.trans hm.kept)
        exact ⟨_, hrecord, hopen⟩
    | sale hsale =>
        have hrecord := hsale.record
        obtain rfl := hsale.store
        obtain ⟨r, hr, hunsettled, hz⟩ := h j hj
        obtain rfl := Option.some.inj (hr.symm.trans hsale.kept)
        exact ⟨_, hrecord, unsettled_afterSale.mpr hunsettled,
          (afterSale_randomness _ _ _).trans hz⟩
    | inquiry hask =>
        obtain ⟨hunsettled, hz, _⟩ := Raffle.phase?_eq_closed.mp hask.closed
        exact ⟨_, hask.record, hunsettled, hz⟩
    | draw hdraw =>
        rw [hdraw.store, awaited_clearJob_self] at hj
        cases hj
    | cancellation hcancel =>
        rw [hcancel.store, awaited_clearJob_self] at hj
        cases hj
    | claim hclaim =>
        obtain rfl := hclaim.store
        obtain ⟨r, hr, _, hz⟩ := h j hj
        obtain rfl := Option.some.inj (hr.symm.trans hclaim.kept)
        have hsome := (Raffle.phase?_eq_finished.mp hclaim.finished).2.1
        rw [hz] at hsome
        cases hsome
  · have hagree := hc.agree hid
    intro j hj
    rw [hagree.raffle]
    exact h j (hagree.awaited ▸ hj)

end Store

theorem Reachable.matched (h : Reachable clock now s) : s.Matched := by
  apply h.invariant (P := fun _ s => s.Matched)
  · intro now config _ _ _
    exact ⟨fun _ _ => nofun, fun _ _ => nofun, fun _ _ => nofun⟩
  · intro now now' s _ hs
    exact hs
  · intro t s s' focus hs hc
    exact hs.change hc

theorem Reachable.undecided (h : Reachable clock now s) (id : RaffleId) : s.Undecided id := by
  apply h.invariant (P := fun _ s => s.Undecided id)
  · intro now config _ _ _ j
    nofun
  · intro now now' s _ hs
    exact hs
  · intro t s s' focus hs hc
    exact hs.change hc

end Tombola
