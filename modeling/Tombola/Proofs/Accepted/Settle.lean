import Tombola.Contract.Settle
import Tombola.Proofs.Accepted.Create
import Tombola.Proofs.Accepted.Sale
import Tombola.Proofs.Store

/-!
# What an accepted change, cancellation or claim has found and done

A raffle is changed before its start, cancelled before its start or after its timeout, and claimed
once it is finished. A cancellation pays every purchase back; a claim splits the sales into two
parts that make up the whole.
-/

namespace Tombola

/-- The price of all tickets sold, in coins, is in the range of an amount. -/
def Raffle.Payable (r : Raffle) : Prop :=
  ∃ price, r.price = .coin price ∧ price.amount.val * r.sold.toNat < amountBound

namespace Contract

open Outcome

/-- A change of a raffle that has not started yet. A raffle that waits for a job keeps its
schedule. -/
structure Modification (s : Store) (now : Timestamp) (sender : Address) (config : Config)
    (r : ModifyRequest) (raffle : Raffle) (s' : Store) : Prop where
  configured : s.config = some config
  kept : s.raffles.get? r.raffle = some raffle
  owner : sender = raffle.owner
  created : raffle.phase? now = some .created
  checked : r.options.check config = .ok ()
  schedule : r.options.reschedules = true → s.outstanding r.raffle = .ok none
  priced : ∀ price, r.price = some price → checkPrice price = .ok ()
  store : s' = s.putRaffle r.raffle { raffle with
    price := r.price.getD raffle.price
    options := raffle.options.revise now raffle.prizes.length r.options config }

/-- A cancellation before the start or after the timeout. -/
structure Cancellation (s : Store) (now : Timestamp) (sender : Address) (id : RaffleId)
    (raffle : Raffle) (s' : Store) : Prop where
  kept : s.raffles.get? id = some raffle
  owner : sender = raffle.owner
  cancellable : raffle.phase? now = some .created ∨
    raffle.phase? now = some .closed ∧ timedOut raffle now = .ok true
  store : s' = (s.putRaffle id { raffle with cancelled := true }).clearJob id

/-- A claim of a finished raffle whose ticket sales can be paid out. -/
structure Claim (s : Store) (now : Timestamp) (id : RaffleId) (raffle : Raffle) (s' : Store) :
    Prop where
  kept : s.raffles.get? id = some raffle
  finished : raffle.phase? now = some .finished
  payable : raffle.Payable
  store : s' = s.putRaffle id { raffle with claimed := true }

section Records

variable {s s' : Store} {now : Timestamp} {sender : Address} {config : Config} {id : RaffleId}
  {raffle : Raffle}

theorem Modification.record {r : ModifyRequest}
    (h : Modification s now sender config r raffle s') : s'.raffles.get? r.raffle =
      some { raffle with
        price := r.price.getD raffle.price
        options := raffle.options.revise now raffle.prizes.length r.options config } := by
  rw [h.store, Store.raffles_putRaffle_self]

/-- The price is kept or has been checked. -/
theorem Modification.priced_getD {r : ModifyRequest}
    (h : Modification s now sender config r raffle s') :
    r.price.getD raffle.price = raffle.price ∨ checkPrice (r.price.getD raffle.price) = .ok () := by
  cases hp : r.price with
  | none => exact .inl rfl
  | some price => exact .inr (h.priced price hp)

theorem Cancellation.record (h : Cancellation s now sender id raffle s') :
    s'.raffles.get? id = some { raffle with cancelled := true } := by
  rw [h.store, Store.raffles_clearJob, Store.raffles_putRaffle_self]

theorem Claim.record (h : Claim s now id raffle s') :
    s'.raffles.get? id = some { raffle with claimed := true } := by
  rw [h.store, Store.raffles_putRaffle_self]

end Records

theorem ownedRaffle_eq_ok {s : Store} {id : RaffleId} {sender : Address} {raffle : Raffle} :
    s.ownedRaffle id sender = .ok raffle ↔
      s.raffles.get? id = some raffle ∧ sender = raffle.owner := by
  simp only [Store.ownedRaffle, Store.getRaffle, bind_eq_ok, orRefuse_eq_ok, ensure_eq_ok,
    decide_eq_true_eq, pure_eq_ok]
  constructor
  · rintro ⟨r, hr, _, ho, rfl⟩
    exact ⟨hr, ho⟩
  · rintro ⟨hr, ho⟩
    exact ⟨raffle, hr, (), ho, rfl⟩

theorem modify_eq_ok {s s' : Store} {env : Surroundings} {caller : Caller} {r : ModifyRequest}
    {response : Response} (h : modify s env caller r = .ok (s', response)) :
    ∃ config raffle, Modification s env.now caller.address config r raffle s' ∧
      response.messages = [] := by
  unfold Contract.modify at h
  obtain ⟨raffle, hraffle, h⟩ := bind_eq_ok.mp h
  obtain ⟨hkept, howner⟩ := ownedRaffle_eq_ok.mp hraffle
  obtain ⟨config, hconfig, h⟩ := bind_eq_ok.mp h
  obtain ⟨_, hphase, h⟩ := bind_eq_ok.mp h
  obtain ⟨_, hcheck, h⟩ := bind_eq_ok.mp h
  obtain ⟨hguard, h⟩ := when_bind_eq_ok.mp h
  have hschedule : r.options.reschedules = true → s.outstanding r.raffle = .ok none := by
    intro hs
    obtain ⟨o, ho, hnone⟩ := hguard hs
    obtain rfl : o = none := by simpa [ensure_eq_ok] using hnone
    exact ho
  cases hp : r.price with
  | none =>
      rw [hp] at h
      obtain ⟨_, hraffle', h⟩ := bind_eq_ok.mp h
      obtain rfl := pure_eq_ok.mp hraffle'
      obtain ⟨rfl, rfl⟩ := Prod.mk.inj (pure_eq_ok.mp h)
      refine ⟨config, raffle, ⟨orRefuse_eq_ok.mp hconfig, hkept, howner,
        ensurePhase_eq_ok.mp hphase, hcheck, hschedule, ?_, by rw [hp]; rfl⟩, rfl⟩
      intro price h
      rw [hp] at h
      cases h
  | some price =>
      rw [hp] at h
      obtain ⟨_, hchecked, h⟩ := bind_eq_ok.mp h
      obtain ⟨_, hraffle', h⟩ := bind_eq_ok.mp h
      obtain rfl := pure_eq_ok.mp hraffle'
      obtain ⟨rfl, rfl⟩ := Prod.mk.inj (pure_eq_ok.mp h)
      refine ⟨config, raffle, ⟨orRefuse_eq_ok.mp hconfig, hkept, howner,
        ensurePhase_eq_ok.mp hphase, hcheck, hschedule, ?_, by rw [hp]; rfl⟩, rfl⟩
      intro price' h
      obtain rfl := Option.some.inj (hp.symm.trans h)
      exact hchecked

/-- The timeout has run out when the time that lies that long after the closing time has come. -/
theorem timedOut_eq_ok {r : Raffle} {now : Timestamp} : timedOut r now = .ok true ↔
    ∃ closing deadline, r.closing? = some closing ∧
      closing.addSeconds? r.options.timeout = some deadline ∧ deadline ≤ now := by
  simp only [timedOut, bind_eq_ok, orAbort_eq_ok, pure_eq_ok, decide_eq_true_eq]
  constructor
  · rintro ⟨closing, hclosing, deadline, hdeadline, hle⟩
    exact ⟨closing, deadline, hclosing, hdeadline, hle⟩
  · rintro ⟨closing, deadline, hclosing, hdeadline, hle⟩
    exact ⟨closing, hclosing, deadline, hdeadline, hle⟩

theorem ensureCancellable_eq_ok {r : Raffle} {now : Timestamp} {u : Unit} :
    ensureCancellable r now = .ok u ↔ r.phase? now = some .created ∨
      r.phase? now = some .closed ∧ timedOut r now = .ok true := by
  constructor
  · intro h
    obtain ⟨phase, hphase, h⟩ := bind_eq_ok.mp h
    rw [orAbort_eq_ok] at hphase
    cases phase with
    | created => exact .inl hphase
    | closed =>
        obtain ⟨expired, hexpired, h⟩ := bind_eq_ok.mp h
        obtain rfl := ensure_eq_ok.mp h
        exact .inr ⟨hphase, hexpired⟩
    | _ => exact absurd h refuse_ne_ok
  · rintro (hphase | ⟨hphase, hexpired⟩)
    · rw [ensureCancellable, hphase]
      rfl
    · rw [ensureCancellable, hphase, orAbort, ok_bind]
      dsimp only
      rw [hexpired]
      rfl

/-- Payments back are plain sends to buyers, of what the tickets of one purchase cost. -/
theorem refund_of_mem {s : Store} {id : RaffleId} {r : Raffle} {refunds : List Message}
    (h : refundMessages s id r = .ok refunds) {m : Message} (hm : m ∈ refunds) :
    ∃ p ∈ (s.ledger id).purchases, ∃ refund, ticketCost r p.count = .ok refund ∧
      m = .send p.buyer [refund] := by
  obtain ⟨p, hp, hsend⟩ := exists_of_mem_mapM h hm
  obtain ⟨refund, hcost, hsend⟩ := bind_eq_ok.mp hsend
  exact ⟨p, hp, refund, hcost, (pure_eq_ok.mp hsend).symm⟩

/-- Ticket sales that are paid out are in range. -/
theorem payable_of_proceeds {config : Config} {r : Raffle} {messages : List Message}
    (h : proceedsMessages config r = .ok messages) : r.Payable := by
  obtain ⟨total, htotal, _⟩ := bind_eq_ok.mp h
  obtain ⟨price, hprice, _, hamount⟩ := ticketCost_eq_ok.mp htotal
  exact ⟨price, hprice, hamount ▸ total.amount.lt⟩

/-- The proceeds are plain sends to the treasury and the owner, and a part of zero is not sent. -/
theorem proceeds_of_mem {config : Config} {r : Raffle} {messages : List Message}
    (h : proceedsMessages config r = .ok messages) {m : Message} (hm : m ∈ messages) :
    ∃ part, part.amount.isZero = false ∧
      (m = .send config.treasury [part] ∨ m = .send r.owner [part]) := by
  obtain ⟨total, _, h⟩ := bind_eq_ok.mp h
  obtain ⟨⟨treasury, rest⟩, _, h⟩ := bind_eq_ok.mp h
  obtain rfl := pure_eq_ok.mp h
  have hpart : ∀ (receiver : Address) (a : Amount),
      m ∈ (if a.isZero then [] else [Message.send receiver [⟨total.denom, a⟩]]) →
        a.isZero = false ∧ m = .send receiver [⟨total.denom, a⟩] := by
    intro receiver a hm
    split at hm
    · cases hm
    · next hworth => exact ⟨eq_false_of_ne_true hworth, List.mem_singleton.mp hm⟩
  rcases List.mem_append.mp hm with hm | hm
  · obtain ⟨hworth, hsend⟩ := hpart _ _ hm
    exact ⟨_, hworth, .inl hsend⟩
  · obtain ⟨hworth, hsend⟩ := hpart _ _ hm
    exact ⟨_, hworth, .inr hsend⟩

/-- An accepted cancellation hands the prizes to the owner and pays the purchases back. -/
theorem cancel_eq_ok {s s' : Store} {env : Surroundings} {caller : Caller} {id : RaffleId}
    {response : Response} (h : cancel s env caller id = .ok (s', response)) :
    ∃ raffle refunds, Cancellation s env.now caller.address id raffle s' ∧
      refundMessages s id raffle = .ok refunds ∧
      response.messages = prizeMessages raffle raffle.owner ++ refunds := by
  unfold cancel at h
  obtain ⟨raffle, hraffle, h⟩ := bind_eq_ok.mp h
  obtain ⟨hkept, howner⟩ := ownedRaffle_eq_ok.mp hraffle
  obtain ⟨_, hcancel, h⟩ := bind_eq_ok.mp h
  obtain ⟨refunds, hrefunds, h⟩ := bind_eq_ok.mp h
  obtain ⟨rfl, rfl⟩ := Prod.mk.inj (pure_eq_ok.mp h)
  refine ⟨raffle, refunds, ⟨hkept, howner, ensureCancellable_eq_ok.mp hcancel, rfl⟩, ?_, rfl⟩
  rw [refundMessages, Store.ledger_clearJob, Store.ledger_putRaffle] at hrefunds
  exact hrefunds

/-- An accepted claim hands the prizes to the winner, or to the owner, and the sales to the treasury
and the owner. -/
theorem claim_eq_ok {s s' : Store} {env : Surroundings} {id : RaffleId} {response : Response}
    (h : claim s env id = .ok (s', response)) :
    ∃ config raffle proceeds, Claim s env.now id raffle s' ∧ s.config = some config ∧
      proceedsMessages config raffle = .ok proceeds ∧
      response.messages = prizeMessages raffle (raffle.winner.getD raffle.owner) ++ proceeds := by
  simp only [claim, Store.getConfig, Store.getRaffle, bind_eq_ok, orRefuse_eq_ok,
    ensurePhase_eq_ok] at h
  obtain ⟨config, hconfig, raffle, hkept, _, hfinished, proceeds, hproceeds, h⟩ := h
  obtain ⟨hs, hr⟩ := Prod.mk.inj (pure_eq_ok.mp h)
  refine ⟨config, raffle, proceeds,
    ⟨hkept, hfinished, payable_of_proceeds hproceeds, hs.symm⟩, hconfig, hproceeds, ?_⟩
  rw [← hr]
  rfl

end Contract

end Tombola
