import Tombola.Proofs.Requests
import Tombola.Proofs.Stuck

/-!
# Attempts for randomness

A job is replaced by the next attempt once it has waited for the retry window. So the times of the
jobs of a raffle lie at least one window apart, and the attempt of a job counts windows that fit in
front of its time. Times have 64 bits: long before the counter of attempts is exhausted no time is
left that a job could have. The order of the block times does not matter.
-/

namespace Tombola

open Contract

/-- The retry window in nanoseconds. -/
def retryNanos : Nat := retryWindow.toNat * Timestamp.nanosPerSecond

namespace Job

/-- The later job is the one `n` attempts on for the same raffle, and its time lies at least as many
retry windows after that of this one. -/
structure Before (n : Nat) (job later : Job) : Prop where
  raffle : later.raffle = job.raffle
  attempt : later.attempt.toNat = job.attempt.toNat + n
  spaced : job.pendingSince.nanos.toNat + n * retryNanos ≤ later.pendingSince.nanos.toNat

/-- As many retry windows fit in front of the time of the job as its attempt counts. -/
def Paced (job : Job) : Prop := job.attempt.toNat * retryNanos ≤ job.pendingSince.nanos.toNat

variable {job next later : Job} {m n : Nat}

theorem Before.refl (job : Job) : job.Before 0 job := ⟨rfl, rfl, by simp⟩

theorem Before.trans (h : job.Before m next) (h' : next.Before n later) :
    job.Before (m + n) later where
  raffle := h'.raffle.trans h.raffle
  attempt := by rw [h'.attempt, h.attempt, Nat.add_assoc]
  spaced :=
    calc
      job.pendingSince.nanos.toNat + (m + n) * retryNanos =
          job.pendingSince.nanos.toNat + m * retryNanos + n * retryNanos := by
        rw [Nat.add_mul, Nat.add_assoc]
      _ ≤ next.pendingSince.nanos.toNat + n * retryNanos := Nat.add_le_add_right h.spaced _
      _ ≤ later.pendingSince.nanos.toNat := h'.spaced

theorem Before.paced (h : job.Before n later) (hjob : job.Paced) : later.Paced :=
  calc
    later.attempt.toNat * retryNanos = job.attempt.toNat * retryNanos + n * retryNanos := by
      rw [h.attempt, Nat.add_mul]
    _ ≤ job.pendingSince.nanos.toNat + n * retryNanos := Nat.add_le_add_right hjob _
    _ ≤ later.pendingSince.nanos.toNat := h.spaced

theorem paced_of_first (h : job.attempt = 0) : job.Paced := by
  simp [Paced, h]

/-- The whole range of times holds about thirty million retry windows. -/
theorem Paced.attempt_le (h : job.Paced) : job.attempt.toNat ≤ 30744573 := by
  have hwindow : retryNanos = 600000000000 := rfl
  have hrange := job.pendingSince.nanos.toNat_lt
  rw [Paced, hwindow] at h
  omega

theorem Paced.attempt_lt (h : job.Paced) : job.attempt.toNat + 1 < UInt32.size := by
  have hle := h.attempt_le
  rw [UInt32.size]
  omega

theorem Paced.attempt_add_one (h : job.Paced) :
    (job.attempt + 1).toNat = job.attempt.toNat + 1 := by
  rw [UInt32.toNat_add, UInt32.toNat_one, Nat.mod_eq_of_lt h.attempt_lt]

end Job

variable {clock : Clock} {now now' : Timestamp} {s s' : Store} {t : Turn} {focus : Option RaffleId}
  {id : RaffleId} {attempt : UInt32} {j j' : JobId} {job job' : Job} {steps : List Step}

namespace Store

theorem Matched.raffle_of_outstanding (hs : s.Matched)
    (h : s.outstanding id = .ok (some (j, job))) : job.raffle = id := by
  obtain ⟨hj, hjob⟩ := outstanding_eq_ok_some.mp h
  exact hs.raffle_eq hj hjob

/-- Where a job that is kept comes from: it was kept before, it is the first of its raffle, or it
replaces the one that the raffle was waiting for. -/
inductive Source (s : Store) (j : JobId) (job : Job) : Prop
  | kept (h : s.jobs.get? j = some job)
  | first (zero : job.attempt = 0) (unspent : ¬s.Spent job.raffle 0)
  | next {before : JobId} {prior : Job} (h : s.outstanding job.raffle = .ok (some (before, prior)))
      (spaced : prior.Before 1 job)

namespace Source

theorem of_clearJob {entered : Store} (h : entered.jobs = s.jobs)
    (hjob : (entered.clearJob id).jobs.get? j = some job) : s.Source j job := by
  rw [jobs_clearJob, h] at hjob
  split at hjob
  · cases hjob
  · exact .kept hjob

theorem of_requestRandomness {entered : Store} {config : Config} {after : Option Timestamp}
    (h : entered.jobs = s.jobs)
    (hnew : s.Source (Job.id id attempt) ⟨id, max (after.getD now) now, attempt⟩)
    (hjob : (requestRandomness entered now config id attempt after).1.jobs.get? j = some job) :
    s.Source j job := by
  rw [jobs_requestRandomness, h] at hjob
  split at hjob
  · next hj =>
    obtain rfl := Option.some.inj hjob
    exact hj ▸ hnew
  · split at hjob
    · cases hjob
    · exact .kept hjob

end Source

end Store

namespace Contract.Inquiry

variable {config : Config} {raffle : Raffle}

/-- From now on the raffle waits for the job that is asked for. -/
theorem outstanding (h : Inquiry s now config id attempt raffle s') :
    s'.outstanding id = .ok (some (Job.id id attempt, ⟨id, now, attempt⟩)) := by
  rw [h.store, outstanding_eq_ok_some, awaited_requestRandomness_self, jobs_requestRandomness_self]
  simp

/-- A job is replaced by its next attempt, once it has waited for the retry window. -/
theorem replaces (h : Inquiry s now config id attempt raffle s') (hs : s.Matched)
    (hsome : s.outstanding id = .ok (some (j, job))) : job.Before 1 ⟨id, now, attempt⟩ := by
  rcases h.counted with ⟨hnone, _⟩ | ⟨j₀, job₀, retry, hsome₀, hretry, hnow, hattempt⟩
  · rw [hsome] at hnone
    cases hnone
  · rw [hsome] at hsome₀
    cases hsome₀
    refine ⟨(hs.raffle_of_outstanding hsome).symm, hattempt, ?_⟩
    rw [Timestamp.addSeconds?_eq_some] at hretry
    rw [Timestamp.le_iff, hretry] at hnow
    rwa [Nat.one_mul]

theorem source (h : Inquiry s now config id attempt raffle s') (hs : s.Matched) :
    s.Source (Job.id id attempt) ⟨id, now, attempt⟩ := by
  have hunspent := h.unspent hs
  rcases h.counted with ⟨_, rfl⟩ | ⟨j, job, _, hsome, _⟩
  · exact .first rfl hunspent
  · exact .next hsome (h.replaces hs hsome)

end Contract.Inquiry

/-- Every job that is kept after a change was kept, is a first one or replaces one. -/
theorem Change.source (hc : Change s t focus s') (hs : s.Matched)
    (hjob : s'.jobs.get? j = some job) : s.Source j job := by
  cases hc with
  | idle => exact .kept hjob
  | version => exact .kept hjob
  | settings => exact .kept hjob
  | creation hnew =>
      obtain rfl := hnew.store
      exact .kept hjob
  | autocycle hnew hcycle =>
      rw [hcycle.store] at hjob
      refine .of_requestRandomness (by rw [hnew.store]; rfl) (.first rfl ?_) hjob
      intro hspent
      obtain ⟨r, hr⟩ := hspent.kept
      exact hnew.ne_some r hr
  | modification hm =>
      obtain rfl := hm.store
      exact .kept hjob
  | sale hsale =>
      obtain rfl := hsale.store
      exact .kept hjob
  | inquiry hask =>
      have hsource := hask.source hs
      rw [hask.store] at hjob
      refine .of_requestRandomness rfl ?_ hjob
      rwa [Option.getD_none, max_self]
  | draw hdraw =>
      rw [hdraw.store] at hjob
      refine .of_clearJob ?_ hjob
      rfl
  | cancellation hcancel =>
      rw [hcancel.store] at hjob
      refine .of_clearJob ?_ hjob
      rfl
  | claim hclaim =>
      obtain rfl := hclaim.store
      exact .kept hjob

/-! ## The attempts and the time of a job -/

/-- Every job that is kept has a time for the attempts before it. -/
def Store.Paced (s : Store) : Prop := ∀ j job, s.jobs.get? j = some job → job.Paced

theorem Store.Paced.of_outstanding (h : s.Paced)
    (hsome : s.outstanding id = .ok (some (j, job))) : job.Paced :=
  h j job (outstanding_eq_ok_some.mp hsome).2

theorem Store.Paced.change (h : s.Paced) (hs : s.Matched) (hc : Change s t focus s') :
    s'.Paced := by
  intro j job hjob
  cases hc.source hs hjob with
  | kept hkept => exact h j job hkept
  | first hzero _ => exact Job.paced_of_first hzero
  | next hprior hspaced => exact hspaced.paced (h.of_outstanding hprior)

theorem Reachable.paced (h : Reachable clock now s) : s.Paced := by
  apply h.induction (P := fun _ s => s.Paced)
  · intro now config _ _ _ j job
    nofun
  · intro now now' s _ hs
    exact hs
  · intro now t s s' focus hreach _ hs hc
    exact hs.change hreach.matched hc

/-! ## One job after the other -/

theorem Store.Spent.mono {attempt' : UInt32} (h : s.Spent id attempt) (hle : attempt' ≤ attempt) :
    s.Spent id attempt' := by
  cases h with
  | waiting hkept hawaited hcurrent => exact .waiting hkept hawaited (UInt32.le_trans hle hcurrent)
  | ended hkept hawaited hdone => exact .ended hkept hawaited hdone

/-- A raffle that has asked for randomness before does not start again: after a change it waits for
the same job as before, or for the next attempt. -/
theorem Change.outstanding (hc : Change s t focus s') (hs : s.Matched) (hspent : s.Spent id attempt)
    (hsome : s'.outstanding id = .ok (some (j', job'))) :
    ∃ j job, s.outstanding id = .ok (some (j, job)) ∧
      (j' = j ∧ job' = job ∨ job.Before 1 job') := by
  obtain rfl := (hs.change hc).raffle_of_outstanding hsome
  obtain ⟨_, hjob'⟩ := outstanding_eq_ok_some.mp hsome
  -- A first job is not for this raffle: what it has asked for once is used up for good.
  cases hc.source hs hjob' with
  | kept hkept =>
      exact ⟨j', job', outstanding_eq_ok_some.mpr ⟨hs.awaited _ _ hkept, hkept⟩, .inl ⟨rfl, rfl⟩⟩
  | first _ hunspent => exact absurd (hspent.mono UInt32.zero_le) hunspent
  | next hprior hspaced => exact ⟨_, _, hprior, .inr hspaced⟩

/-- The raffle has got to the attempt of the job, and every job that it waits for comes after it. -/
structure Store.Onward (job : Job) (s : Store) : Prop where
  matched : s.Matched
  spent : s.Spent job.raffle job.attempt
  later : ∀ j' job', s.outstanding job.raffle = .ok (some (j', job')) → ∃ n, job.Before n job'

theorem Store.Onward.change (h : s.Onward job) (hc : Change s t focus s') : s'.Onward job := by
  refine ⟨h.matched.change hc, h.spent.change h.matched hc, ?_⟩
  intro j' job' hsome
  obtain ⟨j, prior, hprior, ⟨_, rfl⟩ | hspaced⟩ := hc.outstanding h.matched h.spent hsome
  · exact h.later j job' hprior
  · obtain ⟨n, hn⟩ := h.later j prior hprior
    exact ⟨n + 1, hn.trans hspaced⟩

theorem Reachable.onward (h : Reachable clock now s)
    (hsome : s.outstanding id = .ok (some (j, job))) : s.Onward job := by
  have hs := h.matched
  obtain rfl := hs.raffle_of_outstanding hsome
  obtain ⟨hj, hjob⟩ := outstanding_eq_ok_some.mp hsome
  obtain ⟨r, hr, _⟩ := h.undecided _ j hj
  refine ⟨hs, .waiting hr (hs.id_eq hjob ▸ hj) (UInt32.le_refl _), ?_⟩
  intro j' job' hsome'
  rw [hsome] at hsome'
  cases hsome'
  exact ⟨0, .refl job⟩

/-- Between two jobs of a raffle as many retry windows have passed as there are attempts between
them. -/
theorem Run.before (hrun : Run clock now s steps now' s') (h : Reachable clock now s)
    (hsome : s.outstanding id = .ok (some (j, job)))
    (hsome' : s'.outstanding id = .ok (some (j', job'))) : ∃ n, job.Before n job' := by
  have honward : s'.Onward job := by
    refine hrun.keeps (P := fun _ s => s.Onward job) ?_ ?_ (h.onward hsome)
    · intro now now' s _ hs
      exact hs
    · intro t s s' focus hs hc
      exact hs.change hc
  apply honward.later j' job'
  rwa [h.matched.raffle_of_outstanding hsome]

/-! ## When asking again aborts -/

namespace Contract

open Outcome

variable {env : Surroundings} {caller : Caller}

theorem ensurePhase_aborts_iff {r : Raffle} {phase : Phase} {action : Action} :
    ensurePhase r now phase action = .error .aborted ↔ r.Stuck now := by
  simp [ensurePhase, bind_eq_aborted, orAbort_eq_aborted, Raffle.phase?_eq_none_iff_stuck,
    ensure_ne_aborted]

theorem outstanding_ne_aborted : s.outstanding id ≠ .error .aborted := by
  unfold Store.outstanding
  split
  · nofun
  · split <;> nofun

theorem oracleFee_ne_aborted {funds : List Coin} {fee : Coin} :
    Payment.oracleFee funds fee ≠ .error .aborted := by
  intro h
  rcases bind_eq_aborted.mp h with h | ⟨_, _, h⟩
  · exact ensure_ne_aborted h
  · split at h <;> cases h

/-- Going on to the next attempt aborts only over a retry time beyond the last point in time. -/
theorem nextAttempt_aborts_iff (h : s.Paced) :
    nextAttempt s now id = .error .aborted ↔ ∃ j job, s.outstanding id = .ok (some (j, job)) ∧
      job.pendingSince.addSeconds? retryWindow = none := by
  unfold nextAttempt
  simp only [bind_eq_aborted, outstanding_ne_aborted, false_or]
  constructor
  · rintro ⟨o, ho, habort⟩
    rcases o with _ | ⟨j, job⟩
    · cases habort
    · refine ⟨j, job, ho, ?_⟩
      rcases bind_eq_aborted.mp habort with habort | ⟨retry, _, habort⟩
      · exact orAbort_eq_aborted.mp habort
      · rcases bind_eq_aborted.mp habort with habort | ⟨_, _, habort⟩
        · exact absurd habort ensure_ne_aborted
        · rw [if_pos (h.of_outstanding ho).attempt_lt] at habort
          cases habort
  · rintro ⟨j, job, hsome, hnone⟩
    exact ⟨_, hsome, bind_eq_aborted.mpr (.inl (orAbort_eq_aborted.mpr hnone))⟩

/-- Asking again aborts only for a raffle whose phase can not be told, or when the retry time of its
job lies beyond the last point in time. -/
theorem updateRandomness_aborts_iff (hpaced : s.Paced) :
    execute s env caller (.updateRandomness id) = .error .aborted ↔
      ∃ config raffle, s.config = some config ∧ caller.address = config.owner ∧
        s.raffles.get? id = some raffle ∧ (raffle.Stuck env.now ∨
          raffle.phase? env.now = some .closed ∧ ∃ j job,
            s.outstanding id = .ok (some (j, job)) ∧
            job.pendingSince.addSeconds? retryWindow = none) := by
  constructor
  · intro h
    rcases bind_eq_aborted.mp h with h | ⟨config, hconfig, h⟩
    · exact absurd h orRefuse_ne_aborted
    rcases bind_eq_aborted.mp h with h | ⟨_, howner, h⟩
    · exact absurd h ensure_ne_aborted
    rcases bind_eq_aborted.mp h with h | ⟨raffle, hraffle, h⟩
    · exact absurd h orRefuse_ne_aborted
    refine ⟨config, raffle, orRefuse_eq_ok.mp hconfig,
      of_decide_eq_true (ensure_eq_ok.mp howner), orRefuse_eq_ok.mp hraffle, ?_⟩
    rcases bind_eq_aborted.mp h with h | ⟨_, hclosed, h⟩
    · exact .inl (ensurePhase_aborts_iff.mp h)
    rcases bind_eq_aborted.mp h with h | ⟨_, _, h⟩
    · exact .inr ⟨ensurePhase_eq_ok.mp hclosed, (nextAttempt_aborts_iff hpaced).mp h⟩
    rcases bind_eq_aborted.mp h with h | ⟨_, _, h⟩
    · exact absurd h oracleFee_ne_aborted
    · cases h
  · rintro ⟨config, raffle, hconfig, howner, hraffle, hstuck | ⟨hclosed, hlate⟩⟩
    · exact (requests_abort_of_stuck hconfig hraffle hstuck caller).updateRandomness howner
    · have hphase : ensurePhase raffle env.now .closed .updateRandomness = .ok () :=
        ensurePhase_eq_ok.mpr hclosed
      simp only [execute, updateRandomness, Store.getConfig_of hconfig, Store.getRaffle_of hraffle,
        ok_bind, howner, decide_true, ensure_true, hphase,
        (nextAttempt_aborts_iff hpaced).mpr hlate, error_bind]

end Contract

/-- Under any order of block times, the attempt of a job that is kept counts retry windows that fit
in front of its time. So the attempt stays far below the range of its counter, and asking again does
not abort over it: only over a raffle whose phase can not be told, or a retry time beyond the last
point in time. Asking again replaces the job by its next attempt, at least one retry window later. A
raffle that waits before and after a turn waits for the same job or for such a next attempt, and
over a whole run at least one retry window passes for each attempt. -/
theorem attempts_bounded_by_time (h : Reachable clock now s) :
    (∀ j job, s.jobs.get? j = some job →
      job.attempt.toNat * retryNanos ≤ job.pendingSince.nanos.toNat ∧
      job.attempt.toNat ≤ 30744573 ∧ (job.attempt + 1).toNat = job.attempt.toNat + 1) ∧
    (∀ env caller id, execute s env caller (.updateRandomness id) = .error .aborted ↔
      ∃ config raffle, s.config = some config ∧ caller.address = config.owner ∧
        s.raffles.get? id = some raffle ∧ (raffle.Stuck env.now ∨
          raffle.phase? env.now = some .closed ∧ ∃ j job,
            s.outstanding id = .ok (some (j, job)) ∧
            job.pendingSince.addSeconds? retryWindow = none)) ∧
    (∀ env caller id j job s' response, s.outstanding id = .ok (some (j, job)) →
      execute s env caller (.updateRandomness id) = .ok (s', response) →
      ∃ j' job', s'.outstanding id = .ok (some (j', job')) ∧ job.Before 1 job') ∧
    (∀ (t : Turn) s' response id j job j' job', t.outcome s = .ok (s', response) →
      s.outstanding id = .ok (some (j, job)) → s'.outstanding id = .ok (some (j', job')) →
      j' = j ∧ job' = job ∨ job.Before 1 job') ∧
    (∀ steps now' s' id j job j' job', Run clock now s steps now' s' →
      s.outstanding id = .ok (some (j, job)) → s'.outstanding id = .ok (some (j', job')) →
      ∃ n, job.Before n job') := by
  have hs := h.matched
  refine ⟨?_, ?_, ?_, ?_, ?_⟩
  · intro j job hjob
    have hpaced := h.paced j job hjob
    exact ⟨hpaced, hpaced.attempt_le, hpaced.attempt_add_one⟩
  · intro env caller id
    exact updateRandomness_aborts_iff h.paced
  · intro env caller id j job s' response hsome hout
    obtain ⟨_, _, _, hask, _⟩ := updateRandomness_eq_ok hout
    exact ⟨_, _, hask.outstanding, hask.replaces hs hsome⟩
  · intro t s' response id j job j' job' hout hsome hsome'
    obtain ⟨focus, hc⟩ := Turn.change hout
    have honward := h.onward hsome
    obtain rfl := hs.raffle_of_outstanding hsome
    obtain ⟨j₀, job₀, hsome₀, hsame⟩ := hc.outstanding hs honward.spent hsome'
    rw [hsome] at hsome₀
    cases hsome₀
    exact hsame
  · intro steps now' s' id j job j' job' hrun hsome hsome'
    exact hrun.before h hsome hsome'

namespace Sample

/-- The contract's owner asks again once the job has waited for ten minutes. -/
def retry : Turn :=
  .execute (env 601000000005) ⟨"owner", [coin 50 "unois"]⟩ (.updateRandomness 0)

def retried : Store := retry.after created

theorem created_reachable_free : Reachable .free ⟨5⟩ created :=
  ⟨⟨"owner", []⟩, setting, setUp, _, ⟨5⟩, _, rfl, .turn creation .start trivial⟩

theorem retried_reachable : Reachable .free ⟨601000000005⟩ retried :=
  created_reachable_free.run (.turn retry .start trivial)

end Sample

/-- The raffle of the small run waits for its second job ten minutes after the first could be
answered, and at the last point in time asking for a third one does not abort. -/
theorem retry_of_sample_spaced : ∃ job job',
    Sample.created.outstanding 0 = .ok (some ("raffle-0", job)) ∧
    Sample.retried.outstanding 0 = .ok (some ("raffle-0-1", job')) ∧
    job.pendingSince = ⟨1000000005⟩ ∧ job'.pendingSince = ⟨601000000005⟩ ∧ job.Before 1 job' ∧
    job'.attempt.toNat * retryNanos ≤ job'.pendingSince.nanos.toNat ∧
    execute Sample.retried (Sample.env 18446744073709551615) ⟨"owner", []⟩ (.updateRandomness 0) ≠
      .error .aborted := by
  obtain ⟨_, _, _, hturn, _⟩ := attempts_bounded_by_time Sample.created_reachable_free
  obtain ⟨hpaced, haborts, _⟩ := attempts_bounded_by_time Sample.retried_reachable
  obtain ⟨job, hsome, hsince⟩ : ∃ job,
      Sample.created.outstanding 0 = .ok (some ("raffle-0", job)) ∧
      job.pendingSince = ⟨1000000005⟩ := ⟨_, rfl, rfl⟩
  obtain ⟨job', hsome', hsince'⟩ : ∃ job',
      Sample.retried.outstanding 0 = .ok (some ("raffle-0-1", job')) ∧
      job'.pendingSince = ⟨601000000005⟩ := ⟨_, rfl, rfl⟩
  obtain ⟨r, hr, hstart, hduration⟩ : ∃ r, Sample.retried.raffles.get? 0 = some r ∧
      r.options.start = ⟨5⟩ ∧ r.options.duration = 1 := ⟨_, rfl, rfl, rfl⟩
  have hbefore : job.Before 1 job' := by
    have hout : Sample.retry.outcome Sample.created = .ok (Sample.retried, _) := rfl
    rcases hturn _ _ _ 0 _ _ _ _ hout hsome hsome' with ⟨hsame, _⟩ | hbefore
    · exact absurd hsame (by decide)
    · exact hbefore
  refine ⟨job, job', hsome, hsome', hsince, hsince', hbefore,
    (hpaced _ job' (outstanding_eq_ok_some.mp hsome').2).1, ?_⟩
  intro habort
  obtain ⟨_, r₀, _, _, hr₀, hstuck | ⟨_, _, job₀, hsome₀, hlate⟩⟩ := (haborts _ _ 0).mp habort
  · obtain rfl := Option.some.inj (hr.symm.trans hr₀)
    have hoverlong := hstuck.overlong
    rw [Raffle.Overlong, hstart, hduration] at hoverlong
    exact absurd hoverlong (by decide)
  · rw [hsome'] at hsome₀
    cases hsome₀
    rw [hsince'] at hlate
    exact absurd hlate (by decide)

end Tombola
