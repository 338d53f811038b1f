import Tombola.Contract.Basic
import Tombola.Request

/-!
# Answering questions

Lists come in pages. Raffles are listed by id and tickets by slot, one entry a ticket.
-/

namespace Tombola.Contract

/-- The configuration as it is told to the outside. -/
structure ConfigReport where
  name : String
  owner : Address
  treasury : Address
  lastRaffle : RaffleId
  minDuration : Seconds
  minTimeout : Seconds
  maxTickets : Option TicketCount
  cut : Decimal
  ownerLock : Bool
  governanceLock : Bool
  oracle : Address
  oracleFee : Coin
  creationFees : List Coin
  deriving DecidableEq

/-- A raffle as it is told to the outside, with its phase at the time of the question. -/
structure RaffleReport where
  id : RaffleId
  phase : Phase
  raffle : Option Raffle
  deriving DecidableEq

/-- The most entries of a page. -/
def maxPage : UInt32 := 100

/-- The number of entries of a page when none is asked for. -/
def defaultPage : UInt32 := 10

/-- The number of entries of a page: what is asked for, up to the most that is given. -/
def pageSize (limit : Option UInt32) : Nat := min (limit.getD defaultPage).toNat maxPage.toNat

/-- Tells the configuration; before the first raffle the last id is told as zero. -/
def reportConfig (s : Store) : Outcome ConfigReport := do
  let c ← s.getConfig
  pure {
    name := c.name
    owner := c.owner
    treasury := c.treasury
    lastRaffle := c.lastRaffle.getD 0
    minDuration := c.minDuration
    minTimeout := c.minTimeout
    maxTickets := c.maxTickets
    cut := c.cut
    ownerLock := c.locks.owner
    governanceLock := c.locks.governance
    oracle := c.oracle
    oracleFee := c.oracleFee
    creationFees := c.creationFees }

/-- Tells a raffle with its phase. It aborts where a closing time out of range decides the phase. -/
def reportOf (now : Timestamp) (id : RaffleId) (r : Raffle) : Outcome RaffleReport := do
  let phase ← Outcome.orAbort (r.phase? now)
  pure ⟨id, phase, some r⟩

/-- Tells the raffle with an id. -/
def reportRaffle (s : Store) (now : Timestamp) (id : RaffleId) : Outcome RaffleReport := do
  reportOf now id (← s.getRaffle id)

/-- The raffle is in one of the phases asked for. -/
def inPhases (now : Timestamp) (r : Raffle) (f : Filters) : Outcome Bool :=
  match f.phases with
  | none => pure true
  | some names => do
    let phase ← Outcome.orAbort (r.phase? now)
    pure (names.contains phase.text)

/-- The raffle belongs to the owner asked for, if one is. -/
def hasOwner (r : Raffle) (f : Filters) : Bool :=
  match f.owner with
  | none => true
  | some owner => r.owner == owner

/-- One of the prizes has the key asked for, if one is. -/
def hasPrizeKey (r : Raffle) (f : Filters) : Bool :=
  match f.prizeKey with
  | none => true
  | some key => r.prizes.any fun prize => prize.key == key

/-- The raffle passes all filters. The phase is worked out only where it is asked for. -/
def passes (now : Timestamp) (r : Raffle) (f : Filters) : Outcome Bool := do
  if ← inPhases now r f then pure (hasOwner r f && hasPrizeKey r f) else pure false

/-- The raffles to go through, in the order of their ids: all of them, or those that the buyer
asked for holds tickets of. -/
def candidates (s : Store) (after : Option RaffleId) (f : Filters) :
    Outcome (List (RaffleId × Outcome Raffle)) :=
  match f.buyer with
  | none => pure ((s.raffles.after after).map fun e => (e.1, pure e.2))
  | some buyer => do
    let buyer ← buyer.validate
    pure (((s.holdingsOf buyer).after after).map fun e => (e.1, s.getRaffle e.1))

/-- Goes through candidates until enough raffles are listed; later ones are not looked at. -/
def gather (now : Timestamp) (f : Filters) :
    Nat → List (RaffleId × Outcome Raffle) → Outcome (List RaffleReport)
  | 0, _ => pure []
  | _, [] => pure []
  | room + 1, (id, candidate) :: rest => do
    let raffle ← candidate
    if ← passes now raffle f then
      let report ← reportOf now id raffle
      let reports ← gather now f room rest
      pure (report :: reports)
    else gather now f (room + 1) rest

/-- Lists one page of raffles. -/
def reportRaffles (s : Store) (now : Timestamp) (page : RafflesPage) :
    Outcome (List RaffleReport) := do
  let f := page.filters.getD .none
  gather now f (pageSize page.limit) (← candidates s page.after f)

/-- Lists the buyers of the slots from `first` on, until there is no room. The end of each purchase
that is reached has to be in range. -/
def gatherTickets (first : Slot) : Nat → List (Slot × Purchase) → Outcome (List Address)
  | _, [] => pure []
  | room, (start, purchase) :: rest =>
    let stop := start.toNat + purchase.count.toNat
    if stop < UInt32.size then
      let count := stop - (max start first).toNat
      if room < count then pure (List.replicate room purchase.buyer)
      else do
        let buyers ← gatherTickets first (room - count) rest
        pure (List.replicate count purchase.buyer ++ buyers)
    else .error .aborted

/-- Lists the buyers of the tickets on one page. After the greatest slot there are none. -/
def reportTickets (s : Store) (page : TicketsPage) : Outcome (List Address) :=
  let ledger := s.ledger page.raffle
  let room := pageSize page.limit
  let fromSlot (first : Slot) :=
    gatherTickets first room (ledger.startingAt (ledger.covering first))
  match page.after with
  | none => fromSlot 0
  | some slot => if slot.toNat + 1 < UInt32.size then fromSlot (slot + 1) else pure []

/-- The number of tickets that a buyer has in a raffle; the address is checked. -/
def reportTicketCount (s : Store) (buyer : Address) (id : RaffleId) : Outcome TicketCount := do
  let buyer ← buyer.validate
  pure (s.holding buyer id)

/-- What a question is answered with. -/
inductive Answer where
  | config (report : ConfigReport)
  | raffle (report : RaffleReport)
  | raffles (reports : List RaffleReport)
  | tickets (buyers : List Address)
  | ticketCount (count : TicketCount)
  deriving DecidableEq

/-- Answers a question from the store and the time. -/
def answer (s : Store) (now : Timestamp) : Question → Outcome Answer
  | .config => .config <$> reportConfig s
  | .raffle id => .raffle <$> reportRaffle s now id
  | .raffles page => .raffles <$> reportRaffles s now page
  | .tickets page => .tickets <$> reportTickets s page
  | .ticketCount buyer id => .ticketCount <$> reportTicketCount s buyer id

end Tombola.Contract
