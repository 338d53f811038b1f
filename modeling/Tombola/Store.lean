import Tombola.Ledger
import Tombola.Refusal

/-!
# The store

Everything the contract keeps. A raffle awaits at most one job, and each job names its raffle; the
two tables are kept apart.
-/

namespace Tombola

/-- The name and the version of the contract that wrote the store. -/
structure Version where
  contract : String
  version : String
  deriving DecidableEq

namespace Version

/-- What this contract marks the store with. -/
def current : Version := ⟨"raffles", "0.3.0"⟩

end Version

/-- All that is kept between requests. -/
structure Store where
  version : Option Version
  config : Option Config
  raffles : Table RaffleId Raffle
  /-- The purchases of each raffle. -/
  ledgers : Table RaffleId Ledger
  /-- For each buyer, the number of tickets in each raffle. -/
  holdings : Table Address (Table RaffleId TicketCount)
  jobs : Table JobId Job
  /-- The job that each raffle waits for. -/
  awaited : Table RaffleId JobId
  deriving DecidableEq

namespace Store

/-- What is kept before the contract is set up. -/
def empty : Store := ⟨none, none, ∅, ∅, ∅, ∅, ∅⟩

instance : Inhabited Store := ⟨empty⟩

/-- The configuration, without which a request is refused. -/
def getConfig (s : Store) : Outcome Config := Outcome.orRefuse (.missing .config) s.config

/-- The raffle with an id; a request for an unknown one is refused. -/
def getRaffle (s : Store) (id : RaffleId) : Outcome Raffle :=
  Outcome.orRefuse (.missing (.raffle id)) (s.raffles.get? id)

/-- Writes the configuration. -/
def putConfig (s : Store) (c : Config) : Store := { s with config := some c }

/-- Writes a raffle, new or changed. -/
def putRaffle (s : Store) (id : RaffleId) (r : Raffle) : Store :=
  { s with raffles := s.raffles.insert id r }

/-- The purchases in a raffle, none when nothing is sold. -/
def ledger (s : Store) (id : RaffleId) : Ledger := (s.ledgers.get? id).getD ∅

/-- Writes a purchase under its first slot. -/
def putPurchase (s : Store) (id : RaffleId) (slot : Slot) (p : Purchase) : Store :=
  { s with ledgers := s.ledgers.insert id ((s.ledger id).insert slot p) }

/-- The number of tickets of a buyer in each raffle. -/
def holdingsOf (s : Store) (buyer : Address) : Table RaffleId TicketCount :=
  (s.holdings.get? buyer).getD ∅

/-- The number of tickets of a buyer in one raffle. -/
def holding (s : Store) (buyer : Address) (id : RaffleId) : TicketCount :=
  ((s.holdingsOf buyer).get? id).getD 0

/-- Writes the number of tickets of a buyer in one raffle. -/
def putHolding (s : Store) (buyer : Address) (id : RaffleId) (count : TicketCount) : Store :=
  { s with holdings := s.holdings.insert buyer ((s.holdingsOf buyer).insert id count) }

/-- Writes what is known of a job. -/
def putJob (s : Store) (id : JobId) (job : Job) : Store := { s with jobs := s.jobs.insert id job }

/-- Writes which job a raffle waits for. -/
def putAwaited (s : Store) (raffle : RaffleId) (job : JobId) : Store :=
  { s with awaited := s.awaited.insert raffle job }

/-- The job that a raffle waits for, if any; it is an error when that job is not kept. -/
def outstanding (s : Store) (raffle : RaffleId) : Outcome (Option (JobId × Job)) :=
  match s.awaited.get? raffle with
  | none => pure none
  | some id =>
    match s.jobs.get? id with
    | none => Outcome.refuse (.missing (.job id))
    | some job => pure (some (id, job))

/-- Forgets the job that a raffle waits for. -/
def clearJob (s : Store) (raffle : RaffleId) : Store :=
  match s.awaited.get? raffle with
  | none => s
  | some id => { s with jobs := s.jobs.erase id, awaited := s.awaited.erase raffle }

/-- The raffle, when the sender owns it. -/
def ownedRaffle (s : Store) (id : RaffleId) (sender : Address) : Outcome Raffle := do
  let raffle ← s.getRaffle id
  Outcome.ensure (sender = raffle.owner) .unauthorized
  pure raffle

end Store

end Tombola
