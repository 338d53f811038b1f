import Tombola.Contract.Randomness

/-!
# Selling tickets

A purchase takes the slots after those already sold. When the last ticket is sold the raffle's
duration is cut so that it ends within the present second.
-/

namespace Tombola.Contract

/-- A sum that stops at the greatest number of tickets. -/
def addClamped (a b : TicketCount) : TicketCount :=
  UInt32.ofNat (min (a.toNat + b.toNat) (UInt32.size - 1))

/-- The seconds from one time to another, none when the second is earlier. -/
def elapsed (start now : Seconds) : Seconds := if start ≤ now then now - start else 0

/-- What a number of tickets costs together. -/
def ticketCost (r : Raffle) (count : TicketCount) : Outcome Coin :=
  match r.price with
  | .coin price => do
    let amount ← Outcome.orRefuse (.overflow price.amount.val count.toNat)
      (price.amount.times? count.toNat)
    pure ⟨price.denom, amount⟩
  | _ => Outcome.refuse (.invalidAssets .tokenPrice)

/-- A count after a purchase stays within its limit. -/
def ensureWithin (limit : Option TicketCount) (scope : LimitScope) (before after : TicketCount) :
    Outcome Unit :=
  match limit with
  | some most => Outcome.ensure (after ≤ most) (.ticketLimit scope most before after)
  | none => pure ()

/-- The raffle after a sale that leaves it with a total of sold tickets. -/
def afterSale (r : Raffle) (now : Timestamp) (total : TicketCount) : Raffle :=
  if some total = r.options.maxTickets then
    { r with
      sold := total
      options := { r.options with duration := elapsed r.options.start.seconds now.seconds } }
  else { r with sold := total }

/-- Enters a purchase once it is within the limits. Payment and phase are looked at before. -/
def enterPurchase (s : Store) (now : Timestamp) (buyer : Address) (id : RaffleId) (r : Raffle)
    (count : TicketCount) : Outcome (Store × Raffle) := do
  let held := s.holding buyer id
  let heldAfter := addClamped held count
  ensureWithin r.options.maxPerBuyer .buyer held heldAfter
  let total := addClamped r.sold count
  ensureWithin r.options.maxTickets .raffle r.sold total
  let sold := afterSale r now total
  let s := (s.putPurchase id r.sold ⟨buyer, count⟩).putHolding buyer id heldAfter
  pure (s.putRaffle id sold, sold)

/-- The coin that a caller says to have attached, which has to be of the denomination of the cost
and the only coin attached. -/
def statedPayment (caller : Caller) (payment : Asset) (cost : Coin) : Outcome Coin := do
  let sent ← match payment with
    | .coin c =>
      if c.denom = cost.denom then pure c
      else Outcome.refuse (.invalidAssets (.wrongDenom cost.denom))
    | _ => Outcome.refuse (.invalidAssets (.wrongDenom cost.denom))
  Outcome.ensure (caller.funds = [sent]) (.invalidAssets .fundsDiffer)
  pure sent

/-- Sells tickets for exactly their price. -/
def buy (s : Store) (env : Surroundings) (caller : Caller) (r : BuyRequest) : Outcome Effect := do
  let config ← s.getConfig
  Outcome.ensure (!config.locks.locked) .locked
  let raffle ← s.getRaffle r.raffle
  ensurePhase raffle env.now .started .buyTickets
  Outcome.ensure (r.count ≠ 0) (.invalidAssets .noTicket)
  let cost ← ticketCost raffle r.count
  let sent ← statedPayment caller r.payment cost
  Outcome.ensure (cost.amount ≤ sent.amount) (.insufficientFunds cost)
  Outcome.ensure (sent.amount = cost.amount) (.invalidAssets (.overpaid cost))
  let (s, raffle) ← enterPurchase s env.now caller.address r.raffle raffle r.count
  pure (s, .ofAttributes [("action", "buy_ticket"), ("raffle_id", toString r.raffle.toNat),
    ("purchaser", caller.address), ("ticket_count", toString r.count.toNat),
    ("total_tickets", toString raffle.sold.toNat), ("timestamp", env.now.text)])

end Tombola.Contract
