import Tombola.Proofs.Refund

/-!
# The timeout and the time of the job

A closed raffle can be cancelled once its timeout has run out, counted from its closing time. A job
that is asked for while the raffle is closed can be answered at once, and the job that a raffle is
created with once it closes. But a raffle that is sold out closes early, and its job keeps its time:
then the timeout can run out before the oracle can answer.
-/

namespace Tombola

open Contract

namespace Store

/-- The oracle can answer the job that the raffle waits for by now; or the raffle was created with
the job, and closes when that can be answered unless it is sold out. -/
def Due (now : Timestamp) (id : RaffleId) (s : Store) : Prop :=
  ∀ j job, s.awaited.get? id = some j → s.jobs.get? j = some job → job.pendingSince ≤ now ∨
    j = Job.id id 0 ∧ ∃ r, s.raffles.get? id = some r ∧
      (r.closing? = some job.pendingSince ∨ r.SoldOut)

namespace Due

variable {s s' : Store} {now now' : Timestamp} {id : RaffleId} {r r' : Raffle}

theorem later (h : s.Due now id) (hle : now ≤ now') : s.Due now' id := by
  intro j job hj hjob
  rcases h j job hj hjob with hdue | hcycle
  · exact .inl (le_trans hdue hle)
  · exact .inr hcycle

/-- The record is written, and the raffle closes as before unless it is sold out. -/
theorem put (h : s.Due now id) (hr : s.raffles.get? id = some r)
    (hr' : s'.raffles.get? id = some r') (awaited : s'.awaited = s.awaited)
    (jobs : s'.jobs = s.jobs)
    (hkept : ∀ j job, s.awaited.get? id = some j → s.jobs.get? j = some job →
      r.closing? = some job.pendingSince ∨ r.SoldOut →
        r'.closing? = some job.pendingSince ∨ r'.SoldOut) : s'.Due now id := by
  intro j job hj hjob
  rw [awaited] at hj
  rw [jobs] at hjob
  rcases h j job hj hjob with hdue | ⟨hid, r₀, hr₀, hcloses⟩
  · exact .inl hdue
  · obtain rfl := Option.some.inj (hr.symm.trans hr₀)
    exact .inr ⟨hid, r', hr', hkept j job hj hjob hcloses⟩

theorem of_forgotten (h : s.awaited.get? id = none) : s.Due now id := by
  intro j job hj
  rw [h] at hj
  cases hj

/-- The job that a raffle is created with can be answered once the raffle closes. -/
theorem of_autocycle {config : Config} {request : CreateRequest} {owner : Address}
    {entered : Store} {closing : Timestamp}
    (hnew : Creation s now config request owner id r entered)
    (h : Autocycle entered now config id r closing s') : s'.Due now id := by
  intro j job hj hjob
  rw [h.store, awaited_requestRandomness_self] at hj
  obtain rfl := Option.some.inj hj
  rw [h.store, jobs_requestRandomness_self, Option.getD_some] at hjob
  obtain rfl := Option.some.inj hjob
  have hmax : max closing now = closing :=
    max_eq_left (le_trans hnew.now_le_start (Raffle.start_le_closing h.closes))
  refine .inr ⟨rfl, r, h.record hnew.record, .inl ?_⟩
  rw [hmax, h.closes]

/-- Every change keeps the job of a raffle due. -/
theorem change {t : Turn} {focus : Option RaffleId} (h : s.Due t.now id)
    (hreach : Reachable .forward now s) (hle : now ≤ t.now) (hc : Change s t focus s') :
    s'.Due t.now id := by
  have hs := hreach.matched
  by_cases hid : focus = some id
  · subst hid
    cases hc with
    | creation hnew =>
        apply of_forgotten
        rw [hnew.store, Option.eq_none_iff_forall_ne_some]
        intro j hj
        obtain ⟨r, hr, _⟩ := hreach.undecided id j hj
        exact hnew.ne_some r hr
    | autocycle hnew hcycle => exact .of_autocycle hnew hcycle
    | modification hm =>
        obtain ⟨_, hlt⟩ := Raffle.phase?_eq_created.mp hm.created
        apply h.put hm.kept hm.record (by rw [hm.store]; rfl) (by rw [hm.store]; rfl)
        intro j job hj hjob hcloses
        rcases hcloses with hc | ⟨hsold, _⟩
        · exact .inl ((closing?_revise _ hlt (hm.schedule_kept hj hjob)).trans hc)
        · exact absurd (((hreach.accounted _).later hle).sold_eq_zero hm.kept hlt) hsold
    | sale hsale =>
        apply h.put hsale.kept hsale.record (by rw [hsale.store]; rfl) (by rw [hsale.store]; rfl)
        intro j job _ _ hcloses
        exact hsale.closing_kept hcloses
    | inquiry hask =>
        intro j job hj hjob
        rw [hask.store, awaited_requestRandomness_self] at hj
        obtain rfl := Option.some.inj hj
        rw [hask.store, jobs_requestRandomness_self] at hjob
        obtain rfl := Option.some.inj hjob
        exact .inl (le_of_eq (max_self _))
    | draw hdraw =>
        apply of_forgotten
        rw [hdraw.store, awaited_clearJob_self]
    | cancellation hcancel =>
        apply of_forgotten
        rw [hcancel.store, awaited_clearJob_self]
    | claim hclaim =>
        apply h.put hclaim.kept hclaim.record (by rw [hclaim.store]; rfl)
          (by rw [hclaim.store]; rfl)
        intro j job _ _ hcloses
        exact hcloses
  · have hagree := hc.agree hid
    intro j job hj hjob
    rw [hagree.awaited] at hj
    obtain ⟨attempt, rfl⟩ := hs.named id j hj
    rw [hc.jobs_agree hs.named hid] at hjob
    rw [hagree.raffle]
    exact h _ job hj hjob

end Due

end Store

variable {now : Timestamp} {s : Store} {id : RaffleId} {r : Raffle} {j : JobId} {job : Job}

theorem Reachable.due (h : Reachable .forward now s) (id : RaffleId) : s.Due now id := by
  apply h.induction (P := fun now s => s.Due now id)
  · intro now config _ _ _ j job
    nofun
  · intro now now' s hle hs
    exact hs.later hle
  · intro now t s s' focus hreach hle hs hc
    exact hs.change hreach hle hc

/-- The owner of a closed raffle that waits for a job can cancel it exactly from its timeout on,
counted from its closing time. By then the oracle can have answered, unless the raffle is sold out
and still waits for the job that it was created with: being sold out it has closed before the time
of that job, which is not looked at. -/
theorem closed_cancelled_by_timeout (h : Reachable .forward now s)
    (hr : s.raffles.get? id = some r) (hsome : s.outstanding id = .ok (some (j, job)))
    (env : Surroundings) (caller : Caller) (hle : now ≤ env.now)
    (hclosed : r.phase? env.now = some .closed) (howner : caller.address = r.owner) :
    ((∃ effect, execute s env caller (.cancel id) = .ok effect) ↔
      ∃ closing deadline, r.closing? = some closing ∧
        closing.addSeconds? r.options.timeout = some deadline ∧ deadline ≤ env.now) ∧
    (job.pendingSince ≤ env.now ∨ r.SoldOut ∧ j = Job.id id 0 ∧
      ∃ closing, r.closing? = some closing ∧ closing < job.pendingSince) := by
  constructor
  · rw [cancel_succeeds_iff h hr howner, hclosed, timedOut_eq_ok]
    simp only [Option.some.injEq, reduceCtorEq, false_or, true_and]
  · obtain ⟨hj, hjob⟩ := outstanding_eq_ok_some.mp hsome
    obtain ⟨_, _, c, hc, hpast⟩ := Raffle.phase?_eq_closed.mp hclosed
    by_cases hdue : job.pendingSince ≤ env.now
    · exact .inl hdue
    · right
      have hbefore : c < job.pendingSince := lt_of_le_of_lt hpast (not_le.mp hdue)
      rcases h.due id j job hj hjob with hpending | ⟨hid, r₀, hr₀, hcloses⟩
      · exact absurd (le_trans hpending hle) hdue
      · obtain rfl := Option.some.inj (hr.symm.trans hr₀)
        rcases hcloses with hsame | hsold
        · obtain rfl := Option.some.inj (hc.symm.trans hsame)
          exact absurd hbefore (lt_irrefl _)
        · exact ⟨hsold, hid, c, hc, hbefore⟩

namespace Sample

/-- A raffle that is to last a thousand seconds and has two tickets. -/
def limited : Turn := .execute (env 5) ⟨"owner", [coin 7 "uprize", coin 50 "unois"]⟩
  (.create { raffle with
    options := { OptionsRequest.empty with duration := some 1000, maxTickets := some 2 } })

def soldOut : Store := sale.after (limited.after setUp)

theorem soldOut_reachable : Reachable .forward ⟨6⟩ soldOut :=
  ⟨⟨"owner", []⟩, setting, setUp, _, ⟨5⟩, _, rfl,
    .turn sale (.turn limited .start (by decide : (⟨5⟩ : Timestamp) ≤ ⟨5⟩))
      (by decide : (⟨5⟩ : Timestamp) ≤ ⟨6⟩)⟩

end Sample

/-- Once its two tickets are sold the raffle can be cancelled after two minutes, although the oracle
answers after a thousand seconds at the earliest. -/
theorem sample_cancelled_before_answer : ∃ r j job,
    Sample.soldOut.raffles.get? 0 = some r ∧
    Sample.soldOut.outstanding 0 = .ok (some (j, job)) ∧
    r.phase? ⟨120000000005⟩ = some .closed ∧ job.pendingSince = ⟨1000000000005⟩ ∧
    (∃ effect, execute Sample.soldOut (Sample.env 120000000005) ⟨"owner", []⟩ (.cancel 0) =
      .ok effect) ∧
    r.SoldOut ∧ ∃ closing, r.closing? = some closing ∧ closing < job.pendingSince := by
  obtain ⟨r, j, job, hr, hsome, hclosed, hsince, howner, hcloses, htimeout⟩ : ∃ r j job,
      Sample.soldOut.raffles.get? 0 = some r ∧
      Sample.soldOut.outstanding 0 = .ok (some (j, job)) ∧
      r.phase? ⟨120000000005⟩ = some .closed ∧ job.pendingSince = ⟨1000000000005⟩ ∧
      r.owner = "owner" ∧ r.closing? = some ⟨5⟩ ∧ r.options.timeout = 120 :=
    ⟨_, _, _, rfl, rfl, by decide, rfl, rfl, by decide, rfl⟩
  obtain ⟨hcancel, hpending⟩ := closed_cancelled_by_timeout Sample.soldOut_reachable hr hsome
    (Sample.env 120000000005) ⟨"owner", []⟩ (by decide) hclosed howner.symm
  refine ⟨r, j, job, hr, hsome, hclosed, hsince, ?_, ?_⟩
  · apply hcancel.mpr
    refine ⟨⟨5⟩, ⟨120000000005⟩, hcloses, ?_, le_refl _⟩
    rw [htimeout]
    decide
  · rcases hpending with hdue | ⟨hsold, _, hclosing⟩
    · rw [hsince] at hdue
      exact absurd hdue (by decide)
    · exact ⟨hsold, hclosing⟩

end Tombola
