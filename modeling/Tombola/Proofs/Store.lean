import Tombola.Contract.Randomness
import Tombola.Proofs.Outcome

/-!
# What a write to the store changes

Each write changes one table at one key. Forgetting a job and asking for a new one touch the two
tables of jobs only.
-/

namespace Tombola.Store

variable (s : Store) (id other : RaffleId)

theorem getConfig_of {s : Store} {config : Config} (h : s.config = some config) :
    s.getConfig = .ok config := Outcome.orRefuse_eq_ok.mpr h

theorem getRaffle_of {s : Store} {id : RaffleId} {r : Raffle} (h : s.raffles.get? id = some r) :
    s.getRaffle id = .ok r := Outcome.orRefuse_eq_ok.mpr h

theorem ledger_congr {s s' : Store} {id : RaffleId} (h : s'.ledgers = s.ledgers) :
    s'.ledger id = s.ledger id := by
  rw [ledger, h, ledger]

theorem holding_congr {s s' : Store} (h : s'.holdings = s.holdings) (buyer : Address)
    (id : RaffleId) : s'.holding buyer id = s.holding buyer id := by
  rw [holding, holdingsOf, h, holding, holdingsOf]

@[simp] theorem ledger_putRaffle (r : Raffle) : (s.putRaffle id r).ledger other = s.ledger other :=
  rfl

@[simp] theorem holding_putRaffle (r : Raffle) (buyer : Address) :
    (s.putRaffle id r).holding buyer other = s.holding buyer other := rfl

@[simp] theorem holding_putPurchase (slot : Slot) (p : Purchase) (buyer : Address) :
    (s.putPurchase id slot p).holding buyer other = s.holding buyer other := rfl

@[simp] theorem ledger_putHolding (buyer : Address) (count : TicketCount) :
    (s.putHolding buyer id count).ledger other = s.ledger other := rfl

theorem raffles_putRaffle (r : Raffle) : (s.putRaffle id r).raffles.get? other =
    if other = id then some r else s.raffles.get? other := Table.get?_insert _ _ _ _

@[simp] theorem raffles_putRaffle_self (r : Raffle) :
    (s.putRaffle id r).raffles.get? id = some r := (s.raffles_putRaffle id id r).trans (if_pos rfl)

theorem ledger_putPurchase (slot : Slot) (p : Purchase) : (s.putPurchase id slot p).ledger other =
    if other = id then (s.ledger id).insert slot p else s.ledger other := by
  rw [ledger, putPurchase, Table.get?_insert]
  by_cases h : other = id
  · rw [if_pos h, if_pos h, Option.getD_some]
  · rw [if_neg h, if_neg h]
    rfl

theorem holding_putHolding (buyer buyer' : Address) (count : TicketCount) :
    (s.putHolding buyer id count).holding buyer' other =
      if buyer' = buyer ∧ other = id then count else s.holding buyer' other := by
  rw [holding, holdingsOf, putHolding, Table.get?_insert]
  by_cases hb : buyer' = buyer
  · rw [if_pos hb, Option.getD_some, Table.get?_insert]
    by_cases h : other = id
    · rw [if_pos h, if_pos ⟨hb, h⟩, Option.getD_some]
    · rw [if_neg h, if_neg fun h' => h h'.2, hb]
      rfl
  · rw [if_neg hb, if_neg fun h' => hb h'.1]
    rfl

@[simp] theorem config_clearJob : (s.clearJob id).config = s.config := by
  unfold clearJob
  split <;> rfl

@[simp] theorem raffles_clearJob : (s.clearJob id).raffles = s.raffles := by
  unfold clearJob
  split <;> rfl

@[simp] theorem ledgers_clearJob : (s.clearJob id).ledgers = s.ledgers := by
  unfold clearJob
  split <;> rfl

@[simp] theorem holdings_clearJob : (s.clearJob id).holdings = s.holdings := by
  unfold clearJob
  split <;> rfl

@[simp] theorem ledger_clearJob : (s.clearJob id).ledger other = s.ledger other := by
  rw [ledger_congr (s.ledgers_clearJob id)]

@[simp] theorem holding_clearJob (buyer : Address) :
    (s.clearJob id).holding buyer other = s.holding buyer other := by
  rw [holding_congr (s.holdings_clearJob id)]

theorem awaited_clearJob : (s.clearJob id).awaited.get? other =
    if other = id then none else s.awaited.get? other := by
  unfold clearJob
  split
  · next h =>
    by_cases ho : other = id
    · rw [if_pos ho, ho, h]
    · rw [if_neg ho]
  · exact Table.get?_erase _ _ _

@[simp] theorem awaited_clearJob_self : (s.clearJob id).awaited.get? id = none :=
  (s.awaited_clearJob id id).trans (if_pos rfl)

theorem jobs_clearJob (j : JobId) : (s.clearJob id).jobs.get? j =
    if s.awaited.get? id = some j then none else s.jobs.get? j := by
  unfold clearJob
  split
  · next h => rw [h, if_neg (by simp)]
  · next k h =>
    refine (Table.get?_erase _ _ _).trans ?_
    simp only [h, Option.some.injEq, eq_comm]

end Tombola.Store

namespace Tombola.Contract

variable (s : Store) (now : Timestamp) (config : Config) (id other : RaffleId) (attempt : UInt32)
  (after : Option Timestamp)

@[simp] theorem config_requestRandomness :
    (requestRandomness s now config id attempt after).1.config = s.config := s.config_clearJob id

@[simp] theorem raffles_requestRandomness :
    (requestRandomness s now config id attempt after).1.raffles = s.raffles := s.raffles_clearJob id

@[simp] theorem ledgers_requestRandomness :
    (requestRandomness s now config id attempt after).1.ledgers = s.ledgers := s.ledgers_clearJob id

@[simp] theorem holdings_requestRandomness :
    (requestRandomness s now config id attempt after).1.holdings = s.holdings :=
  s.holdings_clearJob id

theorem awaited_requestRandomness :
    (requestRandomness s now config id attempt after).1.awaited.get? other =
      if other = id then some (Job.id id attempt) else s.awaited.get? other := by
  refine (Table.get?_insert _ _ _ _).trans ?_
  by_cases h : other = id
  · rw [if_pos h, if_pos h]
  · rw [if_neg h, if_neg h]
    exact (s.awaited_clearJob id other).trans (if_neg h)

@[simp] theorem awaited_requestRandomness_self :
    (requestRandomness s now config id attempt after).1.awaited.get? id =
      some (Job.id id attempt) :=
  (awaited_requestRandomness s now config id id attempt after).trans (if_pos rfl)

theorem jobs_requestRandomness (j : JobId) :
    (requestRandomness s now config id attempt after).1.jobs.get? j =
      if j = Job.id id attempt then some ⟨id, max (after.getD now) now, attempt⟩
      else if s.awaited.get? id = some j then none else s.jobs.get? j := by
  refine (Table.get?_insert _ _ _ _).trans ?_
  rw [Store.jobs_clearJob]

@[simp] theorem jobs_requestRandomness_self :
    (requestRandomness s now config id attempt after).1.jobs.get? (Job.id id attempt) =
      some ⟨id, max (after.getD now) now, attempt⟩ :=
  (jobs_requestRandomness s now config id attempt after _).trans (if_pos rfl)

end Tombola.Contract
