import Tombola.Contract.Randomness
import Tombola.Proofs.Phase
import Tombola.Proofs.Store
import Tombola.Proofs.Value

/-!
# What an accepted request for randomness, and an accepted answer, has found and done

Randomness is asked for once a raffle has closed, and the answer comes while it is still closed. A
request makes the raffle wait for a new job; an answer settles the winner and forgets the job.
-/

namespace Tombola.Contract

open Outcome

/-- A request for the randomness of a closed raffle that goes through. The attempt is the first, or
the one after that of a job that has waited long enough. -/
structure Inquiry (s : Store) (now : Timestamp) (config : Config) (id : RaffleId)
    (attempt : UInt32) (raffle : Raffle) (s' : Store) : Prop where
  configured : s.config = some config
  kept : s.raffles.get? id = some raffle
  closed : raffle.phase? now = some .closed
  counted : (s.outstanding id = .ok none ∧ attempt = 0) ∨
    ∃ j job retry, s.outstanding id = .ok (some (j, job)) ∧
      job.pendingSince.addSeconds? retryWindow = some retry ∧ retry ≤ now ∧
      attempt.toNat = job.attempt.toNat + 1
  store : s' = (requestRandomness s now config id attempt none).1

/-- An answer of the oracle that is accepted. -/
structure Draw (s : Store) (now : Timestamp) (answer : RandomnessAnswer) (job : Job)
    (raffle : Raffle) (winner : Option Address) (s' : Store) : Prop where
  awaited : s.jobs.get? answer.job = some job
  kept : s.raffles.get? job.raffle = some raffle
  closed : raffle.phase? now = some .closed
  length : answer.randomness.length = Refusal.randomnessBytes
  drawn : pickWinner s job.raffle answer.randomness raffle.sold = .ok winner
  store : s' = (s.putRaffle job.raffle
    { raffle with winner, randomness := some answer.randomness }).clearJob job.raffle

/-- Asking for randomness leaves the record of the raffle as it is. -/
theorem Inquiry.record {s s' : Store} {now : Timestamp} {config : Config} {id : RaffleId}
    {attempt : UInt32} {raffle : Raffle} (h : Inquiry s now config id attempt raffle s') :
    s'.raffles.get? id = some raffle := by
  rw [h.store, raffles_requestRandomness, h.kept]

theorem Draw.record {s s' : Store} {now : Timestamp} {answer : RandomnessAnswer} {job : Job}
    {raffle : Raffle} {winner : Option Address} (h : Draw s now answer job raffle winner s') :
    s'.raffles.get? job.raffle =
      some { raffle with winner, randomness := some answer.randomness } := by
  rw [h.store, Store.raffles_clearJob, Store.raffles_putRaffle_self]

theorem outstanding_eq_ok_some {s : Store} {id : RaffleId} {j : JobId} {job : Job} :
    s.outstanding id = .ok (some (j, job)) ↔
      s.awaited.get? id = some j ∧ s.jobs.get? j = some job := by
  unfold Store.outstanding
  split
  · next h => simp [h, pure_eq_ok]
  · next h =>
    split
    · next h' =>
      simp only [h, refuse_ne_ok, Option.some.injEq, false_iff, not_and]
      rintro rfl
      simp [h']
    · next h' =>
      simp only [h, pure_eq_ok, Option.some.injEq, Prod.mk.injEq]
      constructor
      · rintro ⟨rfl, rfl⟩
        exact ⟨rfl, h'⟩
      · rintro ⟨rfl, hj⟩
        exact ⟨rfl, Option.some.inj (h'.symm.trans hj)⟩

theorem outstanding_eq_ok_none {s : Store} {id : RaffleId} :
    s.outstanding id = .ok none ↔ s.awaited.get? id = none := by
  unfold Store.outstanding
  split
  · next h => simp [h, pure_eq_ok]
  · next h => split <;> simp [h, refuse_ne_ok, pure_eq_ok]

theorem nextAttempt_eq_ok {s : Store} {now : Timestamp} {id : RaffleId} {attempt : UInt32}
    (h : nextAttempt s now id = .ok attempt) :
    (s.outstanding id = .ok none ∧ attempt = 0) ∨
      ∃ j job retry, s.outstanding id = .ok (some (j, job)) ∧
        job.pendingSince.addSeconds? retryWindow = some retry ∧ retry ≤ now ∧
        attempt.toNat = job.attempt.toNat + 1 := by
  obtain ⟨o, ho, h⟩ := bind_eq_ok.mp h
  rcases o with _ | ⟨j, job⟩
  · exact .inl ⟨ho, (pure_eq_ok.mp h).symm⟩
  · simp only [bind_eq_ok, orAbort_eq_ok, ensure_eq_ok, decide_eq_true_eq] at h
    obtain ⟨retry, hretry, _, hnow, h⟩ := h
    by_cases hlt : job.attempt.toNat + 1 < UInt32.size
    · rw [if_pos hlt] at h
      obtain rfl := pure_eq_ok.mp h
      refine .inr ⟨j, job, retry, ho, hretry, hnow, ?_⟩
      rw [UInt32.toNat_add, UInt32.toNat_one, Nat.mod_eq_of_lt hlt]
    · rw [if_neg hlt] at h
      cases h

/-- Asking for the winner sends attached funds back while a job is waited for, and otherwise is a
first request for randomness that hands on exactly the attached fee. -/
theorem determineWinner_eq_ok {s s' : Store} {env : Surroundings} {caller : Caller} {id : RaffleId}
    {response : Response} (h : determineWinner s env caller id = .ok (s', response)) :
    (s' = s ∧ response.messages =
        if caller.funds.isEmpty then [] else [.send caller.address caller.funds]) ∨
      ∃ config raffle, Inquiry s env.now config id 0 raffle s' ∧
        Payment.oracleFee caller.funds config.oracleFee = .ok () ∧
        response.messages = [(requestRandomness s env.now config id 0 none).2.2] := by
  simp only [determineWinner, Store.getConfig, Store.getRaffle, bind_eq_ok, orRefuse_eq_ok,
    ensurePhase_eq_ok] at h
  obtain ⟨config, hconfig, raffle, hkept, _, hclosed, o, ho, h⟩ := h
  rcases o with _ | ⟨j, job⟩
  · obtain ⟨_, hfee, h⟩ := bind_eq_ok.mp h
    obtain ⟨hs, hr⟩ := Prod.mk.inj (pure_eq_ok.mp h)
    refine .inr ⟨config, raffle, ⟨hconfig, hkept, hclosed, .inl ⟨ho, rfl⟩, hs.symm⟩, hfee, ?_⟩
    rw [← hr]
    rfl
  · obtain ⟨rfl, rfl⟩ := Prod.mk.inj (pure_eq_ok.mp h)
    exact .inl ⟨rfl, rfl⟩

/-- A job is replaced by the contract's owner, who has attached exactly the fee. -/
theorem updateRandomness_eq_ok {s s' : Store} {env : Surroundings} {caller : Caller}
    {id : RaffleId} {response : Response}
    (h : updateRandomness s env caller id = .ok (s', response)) :
    ∃ config raffle attempt, Inquiry s env.now config id attempt raffle s' ∧
      caller.address = config.owner ∧
      Payment.oracleFee caller.funds config.oracleFee = .ok () ∧
      response.messages = [(requestRandomness s env.now config id attempt none).2.2] := by
  simp only [updateRandomness, Store.getConfig, Store.getRaffle, bind_eq_ok, orRefuse_eq_ok,
    ensure_eq_ok, ensurePhase_eq_ok, decide_eq_true_eq] at h
  obtain ⟨config, hconfig, _, howner, raffle, hkept, _, hclosed, attempt, hattempt, _, hfee, h⟩ := h
  obtain ⟨hs, hr⟩ := Prod.mk.inj (pure_eq_ok.mp h)
  refine ⟨config, raffle, attempt,
    ⟨hconfig, hkept, hclosed, nextAttempt_eq_ok hattempt, hs.symm⟩, howner, hfee, ?_⟩
  rw [← hr]
  rfl

/-- An accepted answer comes from the configured oracle and is answered without messages. -/
theorem receiveRandomness_eq_ok {s s' : Store} {env : Surroundings} {caller : Caller}
    {answer : RandomnessAnswer} {response : Response}
    (h : receiveRandomness s env caller answer = .ok (s', response)) :
    ∃ job raffle winner, Draw s env.now answer job raffle winner s' ∧
      (∃ config, s.config = some config ∧ caller.address = config.oracle) ∧
      response.messages = [] := by
  simp only [receiveRandomness, Store.getConfig, Store.getRaffle, bind_eq_ok, orRefuse_eq_ok,
    ensure_eq_ok, ensurePhase_eq_ok, decide_eq_true_eq] at h
  obtain ⟨config, hconfig, _, horacle, job, hjob, raffle, hkept, _, hclosed, _, _, _, hlength,
    winner, hwinner, h⟩ := h
  obtain ⟨hs, hr⟩ := Prod.mk.inj (pure_eq_ok.mp h)
  refine ⟨job, raffle, winner, ⟨hjob, hkept, hclosed, hlength, hwinner, hs.symm⟩,
    ⟨config, hconfig, horacle⟩, ?_⟩
  rw [← hr]
  rfl

end Tombola.Contract
