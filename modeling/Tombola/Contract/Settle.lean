import Tombola.Contract.Create

/-!
# Changing, cancelling and claiming raffles

A raffle is settled once: either it is cancelled, and everybody gets back what they gave, or it is
claimed, and the prizes go to the winner while the sales are split between treasury and owner.
-/

namespace Tombola.Contract

/-- Changes what the request names, before the raffle starts. A raffle that waits for a job keeps
its schedule. -/
def modify (s : Store) (env : Surroundings) (caller : Caller) (r : ModifyRequest) :
    Outcome Effect := do
  let raffle ← s.ownedRaffle r.raffle caller.address
  let config ← s.getConfig
  ensurePhase raffle env.now .created .modify
  r.options.check config
  if r.options.reschedules then
    Outcome.ensure (← s.outstanding r.raffle).isNone (.wrongPhase .reschedule .created)
  let raffle := { raffle with
    options := raffle.options.revise env.now raffle.prizes.length r.options config }
  let raffle ← match r.price with
    | some price => do
      checkPrice price
      pure { raffle with price }
    | none => pure raffle
  pure (s.putRaffle r.raffle raffle,
    .ofAttributes [("action", "modify_raffle"), ("raffle_id", toString r.raffle.toNat)])

/-- The messages that pay back every purchase of a raffle, in the order of the slots. -/
def refundMessages (s : Store) (id : RaffleId) (r : Raffle) : Outcome (List Message) :=
  (s.ledger id).purchases.mapM fun p => do
    let refund ← ticketCost r p.count
    pure (.send p.buyer [refund])

/-- A closed raffle has waited for the oracle as long as it was going to. -/
def timedOut (r : Raffle) (now : Timestamp) : Outcome Bool := do
  let closing ← Outcome.orAbort r.closing?
  let deadline ← Outcome.orAbort (closing.addSeconds? r.options.timeout)
  pure (deadline ≤ now)

/-- The owner can cancel before the start, and after the timeout when no randomness came. -/
def ensureCancellable (r : Raffle) (now : Timestamp) : Outcome Unit := do
  match ← Outcome.orAbort (r.phase? now) with
  | .created => pure ()
  | .closed => Outcome.ensure (← timedOut r now) (.wrongPhase .cancel .closed)
  | phase => Outcome.refuse (.wrongPhase .cancel phase)

/-- Cancels a raffle: prizes go back to the owner and payments to the buyers. -/
def cancel (s : Store) (env : Surroundings) (caller : Caller) (id : RaffleId) :
    Outcome Effect := do
  let raffle ← s.ownedRaffle id caller.address
  ensureCancellable raffle env.now
  let raffle := { raffle with cancelled := true }
  let s := (s.putRaffle id raffle).clearJob id
  let refunds ← refundMessages s id raffle
  pure (s, .withMessages (prizeMessages raffle raffle.owner ++ refunds)
    [("action", "cancel_raffle"), ("raffle_id", toString id.toNat),
      ("refunded_tickets", toString raffle.sold.toNat)])

/-- The treasury's part of a total, rounded down, and the rest; none when the part would be more
than the total. -/
def split? (total : Amount) (cut : Decimal) : Option (Amount × Amount) := do
  let treasury ← Amount.ofNat? (total.val * cut.units.val / Decimal.scale)
  let rest ← total.sub? treasury
  pure (treasury, rest)

/-- The messages that hand out the ticket sales; a part of zero is not sent. -/
def proceedsMessages (config : Config) (r : Raffle) : Outcome (List Message) := do
  let total ← ticketCost r r.sold
  let (treasury, rest) ← Outcome.orAbort (split? total.amount config.cut)
  let part (receiver : Address) (a : Amount) : List Message :=
    if a.isZero then [] else [.send receiver [⟨total.denom, a⟩]]
  pure (part config.treasury treasury ++ part r.owner rest)

/-- Settles a finished raffle. Anyone can ask for it. -/
def claim (s : Store) (env : Surroundings) (id : RaffleId) : Outcome Effect := do
  let config ← s.getConfig
  let raffle ← s.getRaffle id
  ensurePhase raffle env.now .finished .claim
  let receiver := raffle.winner.getD raffle.owner
  let proceeds ← proceedsMessages config raffle
  pure (s.putRaffle id { raffle with claimed := true },
    .withMessages (prizeMessages raffle receiver ++ proceeds)
      [("action", "claim"), ("raffle_id", toString id.toNat), ("receiver", receiver)])

end Tombola.Contract
