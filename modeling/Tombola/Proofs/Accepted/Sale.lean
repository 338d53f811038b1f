import Tombola.Contract.Sale
import Tombola.Proofs.Phase
import Tombola.Proofs.Store
import Tombola.Proofs.Value

/-!
# What an accepted purchase has found and done

A purchase that goes through was for a raffle on sale, within both limits and paid for exactly. It
enters the slots, adds to the buyer's holding and replaces the raffle.
-/

namespace Tombola.Contract

open Outcome

/-- A sale of tickets that goes through. -/
structure Sale (s : Store) (now : Timestamp) (buyer : Address) (id : RaffleId) (count : TicketCount)
    (raffle : Raffle) (price : Coin) (s' : Store) : Prop where
  kept : s.raffles.get? id = some raffle
  started : raffle.phase? now = some .started
  positive : count ≠ 0
  priced : raffle.price = .coin price
  affordable : price.amount.val * count.toNat < amountBound
  withinBuyer : ∀ most, raffle.options.maxPerBuyer = some most →
    addClamped (s.holding buyer id) count ≤ most
  withinRaffle : ∀ most, raffle.options.maxTickets = some most →
    addClamped raffle.sold count ≤ most
  store : s' = ((s.putPurchase id raffle.sold ⟨buyer, count⟩).putHolding buyer id
    (addClamped (s.holding buyer id) count)).putRaffle id
      (afterSale raffle now (addClamped raffle.sold count))

theorem addClamped_toNat (a b : TicketCount) :
    (addClamped a b).toNat = min (a.toNat + b.toNat) (UInt32.size - 1) := by
  rw [addClamped, UInt32.toNat_ofNat_of_lt']
  have : UInt32.size = 4294967296 := rfl
  omega

theorem addClamped_ne_zero (a : TicketCount) {b : TicketCount} (h : b ≠ 0) :
    addClamped a b ≠ 0 := by
  intro hz
  have hpos : b.toNat ≠ 0 := fun hb => h (UInt32.toNat_inj.mp hb)
  have hmin := addClamped_toNat a b
  rw [hz, UInt32.toNat_zero] at hmin
  have : UInt32.size = 4294967296 := rfl
  omega

@[simp] theorem afterSale_sold (r : Raffle) (now : Timestamp) (total : TicketCount) :
    (afterSale r now total).sold = total := by
  unfold afterSale
  split <;> rfl

@[simp] theorem afterSale_prizes (r : Raffle) (now : Timestamp) (total : TicketCount) :
    (afterSale r now total).prizes = r.prizes := by
  unfold afterSale
  split <;> rfl

@[simp] theorem afterSale_price (r : Raffle) (now : Timestamp) (total : TicketCount) :
    (afterSale r now total).price = r.price := by
  unfold afterSale
  split <;> rfl

@[simp] theorem afterSale_randomness (r : Raffle) (now : Timestamp) (total : TicketCount) :
    (afterSale r now total).randomness = r.randomness := by
  unfold afterSale
  split <;> rfl

theorem unsettled_afterSale {r : Raffle} {now : Timestamp} {total : TicketCount} :
    (afterSale r now total).Unsettled ↔ r.Unsettled := by
  unfold afterSale
  split <;> exact Iff.rfl

@[simp] theorem afterSale_start (r : Raffle) (now : Timestamp) (total : TicketCount) :
    (afterSale r now total).options.start = r.options.start := by
  unfold afterSale
  split <;> rfl

@[simp] theorem afterSale_maxTickets (r : Raffle) (now : Timestamp) (total : TicketCount) :
    (afterSale r now total).options.maxTickets = r.options.maxTickets := by
  unfold afterSale
  split <;> rfl

@[simp] theorem afterSale_maxPerBuyer (r : Raffle) (now : Timestamp) (total : TicketCount) :
    (afterSale r now total).options.maxPerBuyer = r.options.maxPerBuyer := by
  unfold afterSale
  split <;> rfl

namespace Sale

variable {s s' : Store} {now : Timestamp} {buyer : Address} {id : RaffleId} {count : TicketCount}
  {raffle : Raffle} {price : Coin}

theorem get?_raffles (h : Sale s now buyer id count raffle price s') (other : RaffleId) :
    s'.raffles.get? other = if other = id then
      some (afterSale raffle now (addClamped raffle.sold count)) else s.raffles.get? other := by
  rw [h.store, Store.raffles_putRaffle]
  rfl

theorem record (h : Sale s now buyer id count raffle price s') :
    s'.raffles.get? id = some (afterSale raffle now (addClamped raffle.sold count)) :=
  (h.get?_raffles id).trans (if_pos rfl)

theorem ledger (h : Sale s now buyer id count raffle price s') (other : RaffleId) :
    s'.ledger other = if other = id then (s.ledger id).insert raffle.sold ⟨buyer, count⟩
      else s.ledger other := by
  rw [h.store, Store.ledger_putRaffle, Store.ledger_putHolding, Store.ledger_putPurchase]

theorem holding (h : Sale s now buyer id count raffle price s') (other : Address)
    (id' : RaffleId) : s'.holding other id' = if other = buyer ∧ id' = id then
      addClamped (s.holding buyer id) count else s.holding other id' := by
  rw [h.store, Store.holding_putRaffle, Store.holding_putHolding, Store.holding_putPurchase]

theorem total_ne_zero (h : Sale s now buyer id count raffle price s') :
    addClamped raffle.sold count ≠ 0 := addClamped_ne_zero raffle.sold h.positive

end Sale

theorem ticketCost_eq_ok {r : Raffle} {count : TicketCount} {cost : Coin} :
    ticketCost r count = .ok cost ↔ ∃ price, r.price = .coin price ∧ cost.denom = price.denom ∧
      cost.amount.val = price.amount.val * count.toNat := by
  unfold ticketCost
  split
  · next price hp =>
    simp only [bind_eq_ok, orRefuse_eq_ok, Amount.times?, Amount.ofNat?_eq_some, pure_eq_ok, hp,
      Asset.coin.injEq, exists_eq_left']
    constructor
    · rintro ⟨a, ha, rfl⟩
      exact ⟨rfl, ha⟩
    · rintro ⟨hd, ha⟩
      exact ⟨cost.amount, ha, by rw [← hd]⟩
  · next hp =>
    constructor
    · intro h
      exact absurd h refuse_ne_ok
    · rintro ⟨price, h, _⟩
      exact absurd h (hp price)

theorem ensureWithin_eq_ok {limit : Option TicketCount} {scope : LimitScope}
    {before after : TicketCount} {u : Unit} : ensureWithin limit scope before after = .ok u ↔
      ∀ most, limit = some most → after ≤ most := by
  cases limit <;> simp [ensureWithin, pure_eq_ok, ensure_eq_ok]

theorem statedPayment_eq_ok {caller : Caller} {payment : Asset} {cost sent : Coin} :
    statedPayment caller payment cost = .ok sent ↔
      payment = .coin sent ∧ sent.denom = cost.denom ∧ caller.funds = [sent] := by
  unfold statedPayment
  cases payment with
  | coin c =>
      by_cases hc : c.denom = cost.denom
      · simp only [hc, if_true, bind_eq_ok, pure_eq_ok, ensure_eq_ok, decide_eq_true_eq,
          exists_eq_left', exists_const_iff, Asset.coin.injEq]
        constructor
        · rintro ⟨⟨_⟩, hf, rfl⟩
          exact ⟨rfl, hc, hf⟩
        · rintro ⟨rfl, _, hf⟩
          exact ⟨⟨()⟩, hf, rfl⟩
      · simp only [hc, if_false, bind_eq_ok, refuse_ne_ok, false_and, exists_false, false_iff]
        rintro ⟨h, hd, _⟩
        cases h
        exact hc hd
  | cw721 _ => simp [bind_eq_ok, refuse_ne_ok]
  | sg721 _ => simp [bind_eq_ok, refuse_ne_ok]

/-- A purchase is entered exactly when its sums are within both limits. -/
theorem enterPurchase_eq_ok {s s' : Store} {now : Timestamp} {buyer : Address} {id : RaffleId}
    {r r' : Raffle} {count : TicketCount} : enterPurchase s now buyer id r count = .ok (s', r') ↔
    (∀ most, r.options.maxPerBuyer = some most → addClamped (s.holding buyer id) count ≤ most) ∧
      (∀ most, r.options.maxTickets = some most → addClamped r.sold count ≤ most) ∧
      r' = afterSale r now (addClamped r.sold count) ∧
      s' = ((s.putPurchase id r.sold ⟨buyer, count⟩).putHolding buyer id
        (addClamped (s.holding buyer id) count)).putRaffle id r' := by
  simp only [enterPurchase, bind_eq_ok, pure_eq_ok, Prod.mk.injEq, ensureWithin_eq_ok]
  constructor
  · rintro ⟨_, hb, _, hr, rfl, rfl⟩
    exact ⟨hb, hr, rfl, rfl⟩
  · rintro ⟨hb, hr, rfl, rfl⟩
    exact ⟨(), hb, (), hr, rfl, rfl⟩

/-- An accepted purchase is a sale, paid for by one coin and answered without messages. -/
theorem buy_eq_ok {s s' : Store} {env : Surroundings} {caller : Caller} {r : BuyRequest}
    {response : Response} (h : buy s env caller r = .ok (s', response)) :
    ∃ raffle price, Sale s env.now caller.address r.raffle r.count raffle price s' ∧
      (∃ config, s.config = some config ∧ config.locks.locked = false) ∧
      (∃ amount, caller.funds = [⟨price.denom, amount⟩] ∧
        amount.val = price.amount.val * r.count.toNat) ∧
      response.messages = [] := by
  simp only [buy, Store.getConfig, Store.getRaffle, bind_eq_ok, pure_eq_ok, orRefuse_eq_ok,
    ensure_eq_ok, ensurePhase_eq_ok, ticketCost_eq_ok, statedPayment_eq_ok, decide_eq_true_eq,
    Prod.mk.injEq] at h
  obtain ⟨config, hconfig, _, hlock, raffle, hkept, _, hstarted, _, hcount, cost, hcost, sent,
    hsent, _, _, _, hpaid, ⟨s'', r'⟩, henter, rfl, hresponse⟩ := h
  obtain ⟨price, hprice, hdenom, hamount⟩ := hcost
  obtain ⟨hbuyer, hraffle, rfl, hstore⟩ := enterPurchase_eq_ok.mp henter
  refine ⟨raffle, price,
    ⟨hkept, hstarted, hcount, hprice, hamount ▸ cost.amount.lt, hbuyer, hraffle, hstore⟩,
    ⟨config, hconfig, by simpa using hlock⟩, ⟨sent.amount, ?_, ?_⟩, ?_⟩
  · rw [hsent.2.2, ← hdenom, ← hsent.2.1]
  · rw [hpaid, hamount]
  · rw [← hresponse]
    rfl

end Tombola.Contract
