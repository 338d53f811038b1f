import Tombola.Contract.Basic
import Tombola.Payment
import Tombola.Request

/-!
# Asking for randomness and drawing the winner

A raffle waits for one job at a time. The winner is the buyer of the slot that the randomness, read
as a number with its highest byte first, leaves as a remainder on division by the number of tickets.
-/

namespace Tombola.Contract

/-- A job that has waited this many seconds can be replaced. -/
def retryWindow : Seconds := 600

/-- What the oracle's fee comes to as funds: a zero coin is not sent. -/
def oracleFunds (fee : Coin) : List Coin := if fee.amount.isZero then [] else [fee]

/-- Makes a raffle wait for a new job, and the call that asks the oracle for it. -/
def requestRandomness (s : Store) (now : Timestamp) (config : Config) (raffle : RaffleId)
    (attempt : UInt32) (after : Option Timestamp) : Store × JobId × Message :=
  let id := Job.id raffle attempt
  let job : Job := ⟨raffle, max (after.getD now) now, attempt⟩
  let call := match after with
    | some t => Call.randomnessAfter t id
    | none => Call.nextRandomness id
  (((s.clearJob raffle).putJob id job).putAwaited raffle id, id,
    .call config.oracle call (oracleFunds config.oracleFee))

/-- The number whose bytes these are, the highest first. -/
def ofBigEndian (bytes : Bytes) : Nat := bytes.foldl (fun n b => 256 * n + b.toNat) 0

/-- The slot that wins. -/
def winningSlot (randomness : Bytes) (tickets : TicketCount) : Outcome Slot := do
  Outcome.ensure (randomness.length = Refusal.randomnessBytes)
    (.randomnessSize randomness.length)
  Outcome.ensure (tickets ≠ 0) .inconsistent
  Outcome.orRefuse .inconsistent (Slot.ofNat? (ofBigEndian randomness % tickets.toNat))

/-- The buyer of a slot. -/
def ticketOwner (s : Store) (raffle : RaffleId) (slot : Slot) : Outcome Address :=
  Outcome.orRefuse .inconsistent ((s.ledger raffle).ownerOf? slot)

/-- The winner, if any ticket was sold. -/
def pickWinner (s : Store) (raffle : RaffleId) (randomness : Bytes) (tickets : TicketCount) :
    Outcome (Option Address) := do
  if tickets = 0 then return none
  Outcome.ensure (randomness.length = Refusal.randomnessBytes) .invalidRandomness
  let slot ← winningSlot randomness tickets
  some <$> ticketOwner s raffle slot

/-- The phase of a raffle now, which has to be the one given. -/
def ensurePhase (r : Raffle) (now : Timestamp) (phase : Phase) (action : Action) :
    Outcome Unit := do
  let actual ← Outcome.orAbort (r.phase? now)
  Outcome.ensure (actual = phase) (.wrongPhase action actual)

/-- Asks for the randomness of a closed raffle, paid by the caller. While a job is waited for
nothing is asked, and attached funds go back. -/
def determineWinner (s : Store) (env : Surroundings) (caller : Caller) (id : RaffleId) :
    Outcome Effect := do
  let config ← s.getConfig
  let raffle ← s.getRaffle id
  ensurePhase raffle env.now .closed .determineWinner
  let attributes (job : JobId) (status : String) :=
    [("action", "determine_winner"), ("raffle_id", toString id.toNat), ("job_id", job),
      ("status", status)]
  match ← s.outstanding id with
  | some (job, _) =>
    let messages := if caller.funds.isEmpty then [] else [.send caller.address caller.funds]
    pure (s, .withMessages messages (attributes job "pending"))
  | none =>
    Payment.oracleFee caller.funds config.oracleFee
    let (s, job, call) := requestRandomness s env.now config id 0 none
    pure (s, .withMessages [call] (attributes job "requested"))

/-- Takes the oracle's answer: draws the winner and forgets the job. -/
def receiveRandomness (s : Store) (env : Surroundings) (caller : Caller)
    (answer : RandomnessAnswer) : Outcome Effect := do
  let config ← s.getConfig
  Outcome.ensure (caller.address = config.oracle) .unauthorized
  let job ← Outcome.orRefuse (.unknownJob answer.job) (s.jobs.get? answer.job)
  let raffle ← s.getRaffle job.raffle
  ensurePhase raffle env.now .closed .receiveRandomness
  Outcome.ensure raffle.randomness.isNone .alreadyDrawn
  Outcome.ensure (answer.randomness.length = Refusal.randomnessBytes) .invalidRandomness
  let winner ← pickWinner s job.raffle answer.randomness raffle.sold
  let raffle := { raffle with winner, randomness := some answer.randomness }
  pure ((s.putRaffle job.raffle raffle).clearJob job.raffle,
    .ofAttributes [("action", "nois_receive"), ("raffle_id", toString job.raffle.toNat),
      ("job_id", answer.job), ("winner", winner.getD "none")])

/-- The attempt that follows the job a raffle waits for, once that has waited long enough. -/
def nextAttempt (s : Store) (now : Timestamp) (id : RaffleId) : Outcome UInt32 := do
  match ← s.outstanding id with
  | none => pure 0
  | some (_, job) =>
    let retry ← Outcome.orAbort (job.pendingSince.addSeconds? retryWindow)
    Outcome.ensure (retry ≤ now) (.randomnessPending retryWindow)
    if job.attempt.toNat + 1 < UInt32.size then pure (job.attempt + 1) else .error .aborted

/-- Replaces a job that the oracle has not answered, paid by the owner of the contract. -/
def updateRandomness (s : Store) (env : Surroundings) (caller : Caller) (id : RaffleId) :
    Outcome Effect := do
  let config ← s.getConfig
  Outcome.ensure (caller.address = config.owner) .unauthorized
  let raffle ← s.getRaffle id
  ensurePhase raffle env.now .closed .updateRandomness
  let attempt ← nextAttempt s env.now id
  Payment.oracleFee caller.funds config.oracleFee
  let (s, job, call) := requestRandomness s env.now config id attempt none
  pure (s, .withMessages [call] [("action", "update_randomness"),
    ("raffle_id", toString id.toNat), ("job_id", job)])

end Tombola.Contract
