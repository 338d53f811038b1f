import Tombola.Proofs.Awaited

/-!
# Requests for randomness

Every request for randomness has an id of its own: the attempts of a raffle only go up, and a
raffle that has its randomness or is settled asks no more. So a job that is dropped never comes
back, a late answer to it is refused as unknown, and a raffle takes one answer at most.
-/

namespace Tombola

open Contract

/-- The job that a message asks the oracle for. -/
def Message.job? : Message → Option JobId
  | .call _ (.nextRandomness j) _ => some j
  | .call _ (.randomnessAfter _ j) _ => some j
  | _ => none

/-- The jobs that a response asks the oracle for. -/
def Response.jobs (r : Response) : List JobId := r.messages.filterMap Message.job?

namespace Step

/-- The jobs that the oracle is asked for by a step that goes through. -/
def requested (step : Step) : List JobId :=
  match step.response with
  | some response => response.jobs
  | none => []

/-- The step is an answer to the job, and it goes through. -/
def Accepts (j : JobId) (step : Step) : Prop :=
  step.turn.answers? = some j ∧ step.response.isSome

/-- The step is an answer to a job of the raffle, and it goes through. -/
def Answers (id : RaffleId) (step : Step) : Prop := ∃ attempt, step.Accepts (Job.id id attempt)

end Step

/-- The jobs that the oracle has been asked for, the latest first. -/
def requested (steps : List Step) : List JobId := steps.flatMap Step.requested

variable {clock : Clock} {now now' : Timestamp} {s s' : Store} {t : Turn} {focus : Option RaffleId}
  {id : RaffleId} {attempt : UInt32} {j : JobId} {steps : List Step} {response : Response}

theorem requested_cons (t : Turn) (response : Response) (steps : List Step) :
    requested (⟨t, some response⟩ :: steps) = response.jobs ++ requested steps :=
  List.flatMap_cons

/-! ## Which messages ask for randomness -/

namespace Response

theorem jobs_of_messages {messages : List Message} (h : response.messages = messages) :
    response.jobs = messages.filterMap Message.job? := by
  rw [jobs, h]

end Response

namespace Contract

theorem job?_transfer (receiver : Address) (asset : Asset) :
    (transfer receiver asset).job? = none := by
  cases asset <;> rfl

theorem job?_requestRandomness (s : Store) (now : Timestamp) (config : Config) (id : RaffleId)
    (attempt : UInt32) (after : Option Timestamp) :
    (requestRandomness s now config id attempt after).2.2.job? = some (Job.id id attempt) := by
  cases after <;> rfl

theorem jobs_collect {env : Surroundings} {config : Config} {caller : Caller} {r : CreateRequest}
    {purse : Purse} {messages : List Message}
    (h : collect env config caller r purse = .ok messages) :
    messages.filterMap Message.job? = [] := by
  rw [List.filterMap_eq_nil_iff]
  intro m hm
  rcases collect_messages h m hm with ⟨prize, _, _, rfl⟩ | ⟨fee, _, rfl⟩
  · exact job?_transfer _ _
  · rfl

theorem jobs_prizes (r : Raffle) (receiver : Address) :
    (prizeMessages r receiver).filterMap Message.job? = [] := by
  rw [List.filterMap_eq_nil_iff]
  intro m hm
  obtain ⟨prize, _, rfl⟩ := List.mem_map.mp hm
  exact job?_transfer _ _

theorem jobs_refunds {r : Raffle} {refunds : List Message}
    (h : refundMessages s id r = .ok refunds) : refunds.filterMap Message.job? = [] := by
  rw [List.filterMap_eq_nil_iff]
  intro m hm
  obtain ⟨p, _, refund, _, rfl⟩ := refund_of_mem h hm
  rfl

theorem jobs_proceeds {config : Config} {r : Raffle} {proceeds : List Message}
    (h : proceedsMessages config r = .ok proceeds) : proceeds.filterMap Message.job? = [] := by
  rw [List.filterMap_eq_nil_iff]
  intro m hm
  obtain ⟨part, _, rfl | rfl⟩ := proceeds_of_mem h hm <;> rfl

end Contract

/-! ## Attempts that are used up -/

namespace Store

/-- The raffle has got to the attempt: it waits for that one or a later one, or it waits no more
because it has its randomness or is settled. -/
inductive Spent (s : Store) (id : RaffleId) (attempt : UInt32) : Prop
  | waiting {r : Raffle} {current : UInt32} (kept : s.raffles.get? id = some r)
      (awaited : s.awaited.get? id = some (Job.id id current)) (le : attempt ≤ current)
  | ended {r : Raffle} (kept : s.raffles.get? id = some r) (awaited : s.awaited.get? id = none)
      (done : ¬r.Unsettled ∨ r.randomness.isSome)

end Store

namespace Contract

variable {config : Config} {raffle : Raffle}

/-- A request is the first one, or the one that follows the job that the raffle waits for. -/
theorem Inquiry.attempt_eq (h : Inquiry s now config id attempt raffle s') (hs : s.Matched) :
    (s.awaited.get? id = none ∧ attempt = 0) ∨
      ∃ before, s.awaited.get? id = some (Job.id id before) ∧
        attempt.toNat = before.toNat + 1 := by
  rcases h.counted with ⟨hnone, hzero⟩ | ⟨j, job, _, hsome, _, _, hattempt⟩
  · exact .inl ⟨outstanding_eq_ok_none.mp hnone, hzero⟩
  · obtain ⟨hj, hjob⟩ := outstanding_eq_ok_some.mp hsome
    obtain ⟨before, rfl⟩ := hs.named id j hj
    obtain ⟨since, hkept⟩ := hs.kept id before hj
    obtain rfl := Option.some.inj (hjob.symm.trans hkept)
    exact .inr ⟨before, hj, hattempt⟩

/-- What is asked for has not been asked for before. -/
theorem Inquiry.unspent (h : Inquiry s now config id attempt raffle s') (hs : s.Matched) :
    ¬s.Spent id attempt := by
  intro hspent
  cases hspent with
  | waiting _ hawaited hle =>
      rcases h.attempt_eq hs with ⟨hnone, _⟩ | ⟨before, hbefore, hnext⟩
      · rw [hawaited] at hnone
        cases hnone
      · have hsame := Job.id_inj (Option.some.inj (hawaited.symm.trans hbefore))
        rw [hsame.2, UInt32.le_iff_toNat_le] at hle
        omega
  | ended hkept _ hdone =>
      obtain rfl := Option.some.inj (hkept.symm.trans h.kept)
      obtain ⟨hunsettled, hz, _⟩ := Raffle.phase?_eq_closed.mp h.closed
      rcases hdone with hsettled | hsome
      · exact hsettled hunsettled
      · rw [hz] at hsome
        cases hsome

theorem Inquiry.spent (h : Inquiry s now config id attempt raffle s') : s'.Spent id attempt := by
  have hrecord := h.record
  obtain rfl := h.store
  exact .waiting hrecord (awaited_requestRandomness_self _ _ _ _ _ _) (UInt32.le_refl _)

end Contract

namespace Store.Spent

theorem of_agree (h : s.Spent id attempt) (hagree : s.Agree id s') : s'.Spent id attempt := by
  cases h with
  | waiting hkept hawaited hle =>
      exact .waiting (hagree.raffle.trans hkept) (hagree.awaited.trans hawaited) hle
  | ended hkept hawaited hdone =>
      exact .ended (hagree.raffle.trans hkept) (hagree.awaited.trans hawaited) hdone

theorem kept (h : s.Spent id attempt) : ∃ r, s.raffles.get? id = some r := by
  cases h with
  | waiting hkept _ _ => exact ⟨_, hkept⟩
  | ended hkept _ _ => exact ⟨_, hkept⟩

/-- The record of the raffle is written, and it is not undone. -/
theorem put {r r' : Raffle} (h : s.Spent id attempt) (hr : s.raffles.get? id = some r)
    (hr' : s'.raffles.get? id = some r') (awaited : s'.awaited = s.awaited)
    (hdone : ¬r.Unsettled ∨ r.randomness.isSome → ¬r'.Unsettled ∨ r'.randomness.isSome) :
    s'.Spent id attempt := by
  cases h with
  | waiting _ hawaited hle => exact .waiting hr' (awaited ▸ hawaited) hle
  | ended hkept hawaited done =>
      obtain rfl := Option.some.inj (hr.symm.trans hkept)
      exact .ended hr' (awaited ▸ hawaited) (hdone done)

/-- Asking again goes beyond every attempt that is used up. -/
theorem inquire {config : Config} {raffle : Raffle} {next : UInt32} (h : s.Spent id attempt)
    (hs : s.Matched) (hask : Inquiry s now config id next raffle s') : s'.Spent id attempt := by
  have hlt : attempt ≤ next := by
    cases h with
    | waiting _ hawaited hle =>
        rcases hask.attempt_eq hs with ⟨hnone, _⟩ | ⟨before, hbefore, hnext⟩
        · rw [hawaited] at hnone
          cases hnone
        · have hsame := Job.id_inj (Option.some.inj (hawaited.symm.trans hbefore))
          rw [hsame.2, UInt32.le_iff_toNat_le] at hle
          rw [UInt32.le_iff_toNat_le]
          omega
    | ended hkept hawaited hdone =>
        exact absurd (.ended hkept hawaited hdone) (hask.unspent hs)
  have hrecord := hask.record
  obtain rfl := hask.store
  exact .waiting hrecord (awaited_requestRandomness_self _ _ _ _ _ _) hlt

/-- An attempt that is used up stays so. -/
theorem change (h : s.Spent id attempt) (hs : s.Matched) (hc : Change s t focus s') :
    s'.Spent id attempt := by
  by_cases hid : focus = some id
  · subst hid
    obtain ⟨r, hr⟩ := h.kept
    cases hc with
    | creation hnew => exact absurd hr (hnew.ne_some r)
    | autocycle hnew _ => exact absurd hr (hnew.ne_some r)
    | modification hm =>
        exact h.put hm.kept hm.record (by rw [hm.store]; rfl) fun hdone => hdone
    | sale hsale =>
        apply h.put hsale.kept hsale.record (by rw [hsale.store]; rfl)
        rw [unsettled_afterSale, afterSale_randomness]
        intro hdone
        exact hdone
    | inquiry hask => exact h.inquire hs hask
    | draw hdraw =>
        refine .ended hdraw.record ?_ (.inr rfl)
        rw [hdraw.store, awaited_clearJob_self]
    | cancellation hcancel =>
        refine .ended hcancel.record ?_ (.inl ?_)
        · rw [hcancel.store, awaited_clearJob_self]
        · rintro ⟨hfalse, _⟩
          cases hfalse
    | claim hclaim =>
        apply h.put hclaim.kept hclaim.record (by rw [hclaim.store]; rfl)
        intro _
        left
        rintro ⟨_, hfalse⟩
        cases hfalse
  · exact h.of_agree (hc.agree hid)

end Store.Spent

/-! ## What one turn asks for -/

/-- What a turn asks the oracle for: nothing, or one job that was not asked for before. No other job
is entered. -/
inductive Asked (s : Store) : List JobId → Store → Prop
  | nothing {s' : Store} (jobs : ∀ j job, s'.jobs.get? j = some job → s.jobs.get? j = some job) :
      Asked s [] s'
  | job {id : RaffleId} {attempt : UInt32} {s' : Store} (unspent : ¬s.Spent id attempt)
      (spent : s'.Spent id attempt) (jobs : ∀ j job, s'.jobs.get? j = some job →
        j = Job.id id attempt ∨ s.jobs.get? j = some job) : Asked s [Job.id id attempt] s'

namespace Asked

theorem of_same (h : s'.jobs = s.jobs) : Asked s [] s' := by
  apply Asked.nothing
  intro j job hjob
  exact h ▸ hjob

/-- Forgetting a job asks for nothing. -/
theorem of_clearJob {entered : Store} (h : entered.jobs = s.jobs) (id : RaffleId) :
    Asked s [] (entered.clearJob id) := by
  apply Asked.nothing
  intro j job hjob
  rw [Store.jobs_clearJob, h] at hjob
  split at hjob
  · cases hjob
  · exact hjob

theorem of_requestRandomness {entered : Store} {config : Config} {after : Option Timestamp}
    (h : entered.jobs = s.jobs) (hunspent : ¬s.Spent id attempt)
    (hspent : (requestRandomness entered now config id attempt after).1.Spent id attempt) :
    Asked s [Job.id id attempt] (requestRandomness entered now config id attempt after).1 := by
  apply Asked.job hunspent hspent
  intro j job hjob
  rw [jobs_requestRandomness, h] at hjob
  split at hjob
  · next hj => exact .inl hj
  · split at hjob
    · cases hjob
    · exact .inr hjob

theorem of_inquiry {config : Config} {raffle : Raffle} (hs : s.Matched)
    (h : Inquiry s now config id attempt raffle s') : Asked s [Job.id id attempt] s' := by
  have hspent := h.spent
  have hunspent := h.unspent hs
  obtain rfl := h.store
  exact of_requestRandomness rfl hunspent hspent

/-- A new raffle has not asked for anything yet. -/
theorem of_autocycle {config : Config} {r : CreateRequest} {owner : Address} {raffle : Raffle}
    {entered : Store} {closing : Timestamp} (hnew : Creation s now config r owner id raffle entered)
    (h : Autocycle entered now config id raffle closing s') : Asked s [Job.id id 0] s' := by
  have hrecord := h.record hnew.record
  obtain rfl := h.store
  apply of_requestRandomness (by rw [hnew.store]; rfl)
  · intro hspent
    obtain ⟨r, hr⟩ := hspent.kept
    exact hnew.ne_some r hr
  · exact .waiting hrecord (awaited_requestRandomness_self _ _ _ _ _ _) (UInt32.le_refl _)

end Asked

/-- A turn that goes through asks for one new job at most. -/
theorem Turn.asked (hs : s.Matched) (h : t.outcome s = .ok (s', response)) :
    Asked s response.jobs s' := by
  cases t with
  | execute env caller request =>
      cases request with
      | create r =>
          obtain ⟨config, _, messages, _, id, _, _, hnew, _, hcollect, _, hrest⟩ := create_eq_ok h
          rcases hrest with ⟨_, rfl, hmessages⟩ | ⟨closing, _, hcycle, hmessages⟩
          · rw [Response.jobs_of_messages hmessages, jobs_collect hcollect]
            exact .of_same (by rw [hnew.store]; rfl)
          · rw [Response.jobs_of_messages hmessages, List.filterMap_append, jobs_collect hcollect,
              List.filterMap_cons_some (job?_requestRandomness _ _ _ _ _ _)]
            exact .of_autocycle hnew hcycle
      | cancel id =>
          obtain ⟨raffle, refunds, hcancel, hrefunds, hmessages⟩ := cancel_eq_ok h
          rw [Response.jobs_of_messages hmessages, List.filterMap_append, jobs_prizes,
            jobs_refunds hrefunds, hcancel.store]
          apply Asked.of_clearJob
          rfl
      | updateConfig r =>
          obtain ⟨_, _, _, _, rfl, hmessages⟩ := updateConfig_eq_ok h
          rw [Response.jobs_of_messages hmessages]
          exact .of_same rfl
      | modify r =>
          obtain ⟨_, _, hmodify, hmessages⟩ := modify_eq_ok h
          rw [Response.jobs_of_messages hmessages, hmodify.store]
          exact .of_same rfl
      | buy r =>
          obtain ⟨_, _, hsale, _, _, hmessages⟩ := buy_eq_ok h
          rw [Response.jobs_of_messages hmessages, hsale.store]
          exact .of_same rfl
      | deposit d =>
          obtain ⟨_, _, _, _, _, _, hnew, _, _, _, _, _, hmessages⟩ := deposit_eq_ok h
          rw [Response.jobs_of_messages hmessages, hnew.store]
          exact .of_same rfl
      | determineWinner id =>
          rcases determineWinner_eq_ok h with ⟨rfl, hmessages⟩ | ⟨_, _, hask, _, hmessages⟩
          · rw [Response.jobs_of_messages hmessages]
            cases caller.funds.isEmpty <;> exact .of_same rfl
          · rw [Response.jobs_of_messages hmessages,
              List.filterMap_cons_some (job?_requestRandomness _ _ _ _ _ _)]
            exact .of_inquiry hs hask
      | receiveRandomness answer =>
          obtain ⟨job, _, _, hdraw, _, hmessages⟩ := receiveRandomness_eq_ok h
          rw [Response.jobs_of_messages hmessages, hdraw.store]
          apply Asked.of_clearJob
          rfl
      | claim id =>
          obtain ⟨_, _, proceeds, hclaim, _, hproceeds, hmessages⟩ := claim_eq_ok h
          rw [Response.jobs_of_messages hmessages, List.filterMap_append, jobs_prizes,
            jobs_proceeds hproceeds, hclaim.store]
          exact .of_same rfl
      | setLock lock =>
          obtain ⟨_, _, _, rfl, hmessages⟩ := setLock_eq_ok h
          rw [Response.jobs_of_messages hmessages]
          exact .of_same rfl
      | updateRandomness id =>
          obtain ⟨_, _, _, hask, _, _, hmessages⟩ := updateRandomness_eq_ok h
          rw [Response.jobs_of_messages hmessages,
            List.filterMap_cons_some (job?_requestRandomness _ _ _ _ _ _)]
          exact .of_inquiry hs hask
  | govern now request =>
      cases request with
      | setLock lock =>
          obtain ⟨_, _, rfl, hmessages⟩ := govern_eq_ok h
          rw [Response.jobs_of_messages hmessages]
          exact .of_same rfl
  | migrate now =>
      obtain ⟨rfl, rfl⟩ := Prod.mk.inj (Except.ok.inj h)
      exact .of_same rfl

/-! ## What a run has asked for -/

theorem Turn.draw_of_answers (h : t.answers? = some j) (hout : t.outcome s = .ok (s', response)) :
    ∃ answer job raffle winner, answer.job = j ∧ Draw s t.now answer job raffle winner s' := by
  cases t with
  | execute env caller request =>
      cases request with
      | receiveRandomness answer =>
          obtain ⟨job, raffle, winner, hdraw, _⟩ := receiveRandomness_eq_ok hout
          exact ⟨answer, job, raffle, winner, Option.some.inj h, hdraw⟩
      | _ => cases h
  | govern _ _ => cases h
  | migrate _ => cases h

/-- What the steps have asked the oracle for: every job once, each attempt is used up, and the jobs
that are kept, and those that were answered, are among them. -/
structure Issued (steps : List Step) (s : Store) : Prop where
  once : (requested steps).Nodup
  spent : ∀ j ∈ requested steps, ∃ id attempt, j = Job.id id attempt ∧ s.Spent id attempt
  kept : ∀ j job, s.jobs.get? j = some job → j ∈ requested steps
  answered : ∀ step ∈ steps, ∀ j, step.Accepts j → j ∈ requested steps

theorem Issued.accept (h : Issued steps s) (hs : s.Matched)
    (hout : t.outcome s = .ok (s', response)) : Issued (⟨t, some response⟩ :: steps) s' := by
  obtain ⟨focus, hc⟩ := Turn.change hout
  have hspent : ∀ j ∈ requested steps, ∃ id attempt, j = Job.id id attempt ∧
      s'.Spent id attempt := by
    intro j hj
    obtain ⟨id, attempt, rfl, hspent⟩ := h.spent j hj
    exact ⟨id, attempt, rfl, hspent.change hs hc⟩
  have hanswered : ∀ step ∈ ⟨t, some response⟩ :: steps, ∀ j, step.Accepts j →
      j ∈ requested steps := by
    intro step hstep j hj
    rcases List.mem_cons.mp hstep with rfl | hstep
    · obtain ⟨answer, job, _, _, rfl, hdraw⟩ := Turn.draw_of_answers hj.1 hout
      exact h.kept _ job hdraw.awaited
    · exact h.answered step hstep j hj
  have hcons := requested_cons t response steps
  have hasked := Turn.asked hs hout
  generalize response.jobs = jobs at hcons hasked
  cases hasked with
  | nothing hjobs =>
      rw [List.nil_append] at hcons
      refine ⟨hcons ▸ h.once, hcons ▸ hspent, ?_, hcons ▸ hanswered⟩
      intro j job hjob
      rw [hcons]
      exact h.kept j job (hjobs j job hjob)
  | @job id attempt _ hunspent hnew hjobs =>
      rw [List.singleton_append] at hcons
      constructor
      · rw [hcons, List.nodup_cons]
        refine ⟨?_, h.once⟩
        intro hmem
        obtain ⟨id', attempt', heq, hspent'⟩ := h.spent _ hmem
        obtain ⟨rfl, rfl⟩ := Job.id_inj heq
        exact hunspent hspent'
      · intro j hj
        rw [hcons] at hj
        rcases List.mem_cons.mp hj with rfl | hj
        · exact ⟨id, attempt, rfl, hnew⟩
        · exact hspent j hj
      · intro j job hjob
        rw [hcons]
        rcases hjobs j job hjob with rfl | hjob
        · exact List.mem_cons_self
        · exact List.mem_cons_of_mem _ (h.kept j job hjob)
      · intro step hstep j hj
        rw [hcons]
        exact List.mem_cons_of_mem _ (hanswered step hstep j hj)

theorem Step.not_accepts_of_none : ¬Step.Accepts j ⟨t, none⟩ := by
  rintro ⟨_, hnone⟩
  cases hnone

theorem Recorded.issued (h : Recorded clock steps now s) : Issued steps s := by
  apply h.invariant (P := fun steps _ s => Issued steps s)
  · intro now config _ _ _
    exact ⟨.nil, nofun, nofun, fun _ hmem => absurd hmem List.not_mem_nil⟩
  · intro steps now now' s _ hs
    exact hs
  · intro steps now t s s' response hreach _ hs hout
    exact hs.accept hreach.matched hout
  · intro steps t s hs
    refine ⟨hs.once, hs.spent, hs.kept, ?_⟩
    intro step hstep j hj
    rcases List.mem_cons.mp hstep with rfl | hstep
    · exact absurd hj Step.not_accepts_of_none
    · exact hs.answered step hstep j hj

/-- The attempt is used up and its job is not kept, so it never will be again. -/
structure Store.Dropped (s : Store) (id : RaffleId) (attempt : UInt32) : Prop where
  matched : s.Matched
  spent : s.Spent id attempt
  gone : s.jobs.get? (Job.id id attempt) = none

theorem Store.Dropped.accept (h : s.Dropped id attempt)
    (hout : t.outcome s = .ok (s', response)) : s'.Dropped id attempt := by
  obtain ⟨focus, hc⟩ := Turn.change hout
  refine ⟨h.matched.change hc, h.spent.change h.matched hc, ?_⟩
  rw [Option.eq_none_iff_forall_ne_some]
  intro job hjob
  have hnone := h.gone
  have hasked := Turn.asked h.matched hout
  generalize response.jobs = jobs at hasked
  cases hasked with
  | nothing hjobs =>
      rw [hjobs _ job hjob] at hnone
      cases hnone
  | job hunspent _ hjobs =>
      rcases hjobs _ job hjob with heq | hkept
      · obtain ⟨rfl, rfl⟩ := Job.id_inj heq
        exact hunspent h.spent
      · rw [hkept] at hnone
        cases hnone

theorem Run.dropped (h : Run clock now s steps now' s') (hs : s.Dropped id attempt) :
    s'.Dropped id attempt := by
  refine h.preserves (P := fun _ s => s.Dropped id attempt) ?_ ?_ hs
  · intro now now' s _ hs
    exact hs
  · intro t s s' response hs hout
    exact hs.accept hout

/-! ## Late answers and second answers -/

/-- From now on the oracle's answers to the job are refused, since no such job is known. -/
def Store.Forgets (clock : Clock) (now : Timestamp) (s : Store) (j : JobId) : Prop :=
  ∀ {steps now' s'}, Run clock now s steps now' s' → ∀ env caller answer config,
    s'.config = some config → caller.address = config.oracle → answer.job = j →
    execute s' env caller (.receiveRandomness answer) = .error (.refused (.unknownJob j))

theorem receive_unknown {env : Surroundings} {caller : Caller} {answer : RandomnessAnswer}
    {config : Config} (hconfig : s.config = some config)
    (horacle : caller.address = config.oracle) (hjob : s.jobs.get? answer.job = none) :
    execute s env caller (.receiveRandomness answer) =
      .error (.refused (.unknownJob answer.job)) := by
  have hcaller : Outcome.ensure (caller.address = config.oracle) .unauthorized = .ok () :=
    Outcome.ensure_eq_ok.mpr (decide_eq_true horacle)
  simp only [execute, receiveRandomness, Store.getConfig_of hconfig, Outcome.ok_bind, hcaller, hjob,
    Outcome.orRefuse, Outcome.refuse, Outcome.error_bind]

/-- A job that was asked for and is not kept is forgotten. -/
theorem Recorded.forgets (h : Recorded clock steps now s) (hj : j ∈ requested steps)
    (hgone : s.jobs.get? j = none) : s.Forgets clock now j := by
  obtain ⟨id, attempt, rfl, hspent⟩ := h.issued.spent j hj
  rintro steps' now' s' hrun env caller answer config hconfig horacle hanswer
  have hdropped := hrun.dropped ⟨h.reachable.matched, hspent, hgone⟩
  rw [← hanswer]
  exact receive_unknown hconfig horacle (hanswer ▸ hdropped.gone)

/-- The turn replaces the job of a raffle, answers it, or cancels the raffle. -/
inductive Turn.Retires (id : RaffleId) (j : JobId) : Turn → Prop
  | replace (env : Surroundings) (caller : Caller) :
      Retires id j (.execute env caller (.updateRandomness id))
  | answer (env : Surroundings) (caller : Caller) {answer : RandomnessAnswer}
      (job : answer.job = j) : Retires id j (.execute env caller (.receiveRandomness answer))
  | cancel (env : Surroundings) (caller : Caller) :
      Retires id j (.execute env caller (.cancel id))

/-- A job is dropped by each turn that retires it. -/
theorem Turn.Retires.drops (h : t.Retires id j) (hs : s.Matched)
    (hj : s.awaited.get? id = some j) (hout : t.outcome s = .ok (s', response)) :
    s'.jobs.get? j = none := by
  cases h with
  | replace env caller =>
      obtain ⟨_, _, attempt, hask, _⟩ := updateRandomness_eq_ok hout
      have hne : j ≠ Job.id id attempt := by
        rintro rfl
        obtain ⟨hnone, _⟩ | ⟨before, hbefore, hnext⟩ := hask.attempt_eq hs
        · rw [hj] at hnone
          cases hnone
        · rw [(Job.id_inj (Option.some.inj (hj.symm.trans hbefore))).2] at hnext
          omega
      rw [hask.store, jobs_requestRandomness, if_neg hne, if_pos hj]
  | answer env caller hanswer =>
      subst hanswer
      obtain ⟨job, _, _, hdraw, _⟩ := receiveRandomness_eq_ok hout
      rw [hdraw.store, Store.jobs_clearJob]
      exact if_pos (hs.awaited _ job hdraw.awaited)
  | cancel env caller =>
      obtain ⟨_, _, hcancel, _⟩ := cancel_eq_ok hout
      rw [hcancel.store, Store.jobs_clearJob]
      exact if_pos hj

/-- Randomness that has come stays. -/
theorem Change.keeps_randomness (hc : Change s t focus s') {r : Raffle}
    (hr : s.raffles.get? id = some r) (hz : r.randomness.isSome) :
    ∃ r', s'.raffles.get? id = some r' ∧ r'.randomness.isSome := by
  cases hc.raffle id with
  | same raffle _ _ => exact ⟨r, raffle.trans hr, hz⟩
  | entered hnew _ _ _ => exact absurd hr (hnew.ne_some r)
  | @revised r₀ r' kept hrev raffle _ _ =>
      obtain rfl := Option.some.inj (hr.symm.trans kept)
      refine ⟨r', raffle, ?_⟩
      cases hrev with
      | drawn => rfl
      | _ => exact hz
  | sold hsale =>
      obtain rfl := Option.some.inj (hr.symm.trans hsale.kept)
      exact ⟨_, hsale.record, by rwa [afterSale_randomness]⟩

/-- At most one answer for the raffle has gone through, and then it has its randomness. -/
structure Answered (id : RaffleId) (steps : List Step) (s : Store) : Prop where
  once : steps.Pairwise fun a b => ¬(a.Answers id ∧ b.Answers id)
  drawn : ∀ step ∈ steps, step.Answers id → ∃ r, s.raffles.get? id = some r ∧ r.randomness.isSome

/-- An answer is taken only by a raffle that has no randomness yet, which it then has. -/
theorem Answered.accept (h : Answered id steps s) (hs : s.Matched)
    (hout : t.outcome s = .ok (s', response)) : Answered id (⟨t, some response⟩ :: steps) s' := by
  obtain ⟨focus, hc⟩ := Turn.change hout
  have hnew : Step.Answers id ⟨t, some response⟩ →
      (∃ r, s.raffles.get? id = some r ∧ r.randomness = none) ∧
        ∃ r, s'.raffles.get? id = some r ∧ r.randomness.isSome := by
    rintro ⟨attempt, hanswers, _⟩
    obtain ⟨answer, job, raffle, winner, hjob, hdraw⟩ := Turn.draw_of_answers hanswers hout
    obtain ⟨rfl, _⟩ := Job.id_inj (hjob.symm.trans (hs.id_eq hdraw.awaited))
    obtain ⟨_, hz, _⟩ := Raffle.phase?_eq_closed.mp hdraw.closed
    exact ⟨⟨raffle, hdraw.kept, hz⟩, _, hdraw.record, rfl⟩
  constructor
  · refine List.pairwise_cons.mpr ⟨?_, h.once⟩
    rintro step hstep ⟨ht, hb⟩
    obtain ⟨⟨r, hr, hz⟩, _⟩ := hnew ht
    obtain ⟨r₀, hr₀, hsome⟩ := h.drawn step hstep hb
    obtain rfl := Option.some.inj (hr.symm.trans hr₀)
    rw [hz] at hsome
    cases hsome
  · intro step hstep hb
    rcases List.mem_cons.mp hstep with rfl | hstep
    · exact (hnew hb).2
    · obtain ⟨r, hr, hz⟩ := h.drawn step hstep hb
      exact hc.keeps_randomness hr hz

theorem Recorded.answered (h : Recorded clock steps now s) (id : RaffleId) :
    Answered id steps s := by
  apply h.invariant (P := fun steps _ s => Answered id steps s)
  · intro now config _ _ _
    exact ⟨.nil, fun _ hmem => absurd hmem List.not_mem_nil⟩
  · intro steps now now' s _ hs
    exact hs
  · intro steps now t s s' response hreach _ hs hout
    exact hs.accept hreach.matched hout
  · intro steps t s hs
    have hnot : ¬Step.Answers id ⟨t, none⟩ := by
      rintro ⟨_, haccepts⟩
      exact Step.not_accepts_of_none haccepts
    constructor
    · exact List.pairwise_cons.mpr ⟨fun _ _ h => hnot h.1, hs.once⟩
    · intro step hstep hb
      rcases List.mem_cons.mp hstep with rfl | hstep
      · exact absurd hb hnot
      · exact hs.drawn step hstep hb

/-- While a raffle waits for a job, asking for its winner changes nothing and returns the funds. -/
theorem determineWinner_pending {env : Surroundings} {caller : Caller} {job : Job}
    (hsome : s.outstanding id = .ok (some (j, job)))
    (h : execute s env caller (.determineWinner id) = .ok (s', response)) :
    s' = s ∧ response.messages =
      if caller.funds.isEmpty then [] else [.send caller.address caller.funds] := by
  rcases determineWinner_eq_ok h with hpending | ⟨_, _, hask, _⟩
  · exact hpending
  · exfalso
    rcases hask.counted with ⟨hnone, _⟩ | ⟨_, _, _, _, _, _, hattempt⟩
    · rw [hsome] at hnone
      cases hnone
    · rw [UInt32.toNat_zero] at hattempt
      omega

/-- Under any order of block times, the two tables of jobs are each other's inverse. A job that is
kept has the id that its raffle and its attempt give it, and the raffle is not settled and has no
randomness. No job is asked for twice. So a job that is not kept any more is forgotten, as it is
once it has been replaced, answered or dropped by a cancellation, and every raffle takes one answer
at most. Asking for the winner of a raffle that waits changes nothing and returns the funds. -/
theorem jobs_asked_and_answered_once (h : Recorded clock steps now s) :
    (∀ id j, s.awaited.get? id = some j ↔ ∃ job, s.jobs.get? j = some job ∧ job.raffle = id) ∧
    (∀ j job, s.jobs.get? j = some job → j ∈ requested steps ∧
      j = Job.id job.raffle job.attempt ∧
      ∃ r, s.raffles.get? job.raffle = some r ∧ r.Unsettled ∧ r.randomness = none) ∧
    (requested steps).Nodup ∧
    (∀ j ∈ requested steps, s.jobs.get? j = none → s.Forgets clock now j) ∧
    (∀ (t : Turn) s' response id j job, clock now t.now → t.outcome s = .ok (s', response) →
      s.outstanding id = .ok (some (j, job)) → t.Retires id j → s'.Forgets clock t.now j) ∧
    (∀ step ∈ steps, ∀ j, step.Accepts j → ∃ id, step.Answers id) ∧
    (∀ id, steps.Pairwise fun a b => ¬(a.Answers id ∧ b.Answers id)) ∧
    (∀ env caller id j job s' response, s.outstanding id = .ok (some (j, job)) →
      execute s env caller (.determineWinner id) = .ok (s', response) → s' = s ∧
        response.messages =
          if caller.funds.isEmpty then [] else [.send caller.address caller.funds]) := by
  have hs := h.reachable.matched
  have hissued := h.issued
  refine ⟨fun id j => hs.awaited_iff, ?_, hissued.once, fun j hj => h.forgets hj, ?_, ?_,
    fun id => (h.answered id).once, fun _ _ _ _ _ _ _ => determineWinner_pending⟩
  · intro j job hjob
    exact ⟨hissued.kept j job hjob, hs.id_eq hjob,
      h.reachable.undecided _ j (hs.awaited j job hjob)⟩
  · intro t s' response id j job hclock hout hsome hretires
    obtain ⟨hj, hjob⟩ := outstanding_eq_ok_some.mp hsome
    have hnext := h.turn t hclock
    rw [Turn.after_of_ok hout, Turn.response?_of_ok hout] at hnext
    apply hnext.forgets
    · rw [requested_cons]
      exact List.mem_append_right _ (hissued.kept j job hjob)
    · exact hretires.drops hs hj hout
  · intro step hstep j hj
    obtain ⟨id, attempt, rfl, _⟩ := hissued.spent j (hissued.answered step hstep j hj)
    exact ⟨id, attempt, hj⟩

/-- The raffle of the small run asks for one job, which is forgotten once it is answered. -/
theorem job_of_sample_forgotten : requested Sample.taken = ["raffle-0"] ∧
    Sample.drawn.Forgets .forward ⟨1000000005⟩ "raffle-0" ∧
    ∀ answer, answer.job = "raffle-0" →
      execute Sample.drawn (Sample.env 1000000005) ⟨"nois", []⟩ (.receiveRandomness answer) =
        .error (.refused (.unknownJob "raffle-0")) := by
  obtain ⟨_, _, _, hforgets, _⟩ := jobs_asked_and_answered_once Sample.drawn_recorded
  have hasked : requested Sample.taken = ["raffle-0"] := rfl
  have hforgotten : Sample.drawn.Forgets .forward ⟨1000000005⟩ "raffle-0" :=
    hforgets "raffle-0" (hasked ▸ List.mem_cons_self) rfl
  refine ⟨hasked, hforgotten, ?_⟩
  intro answer hanswer
  exact hforgotten .start (Sample.env 1000000005) ⟨"nois", []⟩ answer _ rfl rfl hanswer

end Tombola
