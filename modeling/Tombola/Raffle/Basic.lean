import Tombola.Asset
import Tombola.Raffle.Phase
import Tombola.Text.Hex
import Tombola.Timestamp

/-!
# Raffles

What is kept about one raffle, and how its phase follows from the clock. The phase is not kept: it
is read off the two flags, the schedule and the randomness.
-/

namespace Tombola

/-- The number of a raffle, counted from zero in the order of creation. -/
abbrev RaffleId := UInt64

/-- A number of tickets. -/
abbrev TicketCount := UInt32

/-- The settings of a raffle that its owner chooses. -/
structure RaffleOptions where
  start : Timestamp
  duration : Seconds
  /-- How long the oracle is waited for after closing. -/
  timeout : Seconds
  comment : Option String
  maxTickets : Option TicketCount
  maxPerBuyer : Option TicketCount
  /-- The index of the prize that is shown first. -/
  preview : UInt32
  deriving DecidableEq

/-- What the contract keeps about a raffle beside the ledger of its purchases. -/
structure Raffle where
  owner : Address
  prizes : List Asset
  /-- What one ticket costs. -/
  price : Asset
  sold : TicketCount
  randomness : Option Bytes
  winner : Option Address
  cancelled : Bool
  claimed : Bool
  options : RaffleOptions
  deriving DecidableEq

namespace Raffle

/-- When sales end; none when that time is out of range. -/
def closing? (r : Raffle) : Option Timestamp := r.options.start.addSeconds? r.options.duration

/-- The phase at a time. The closing time is looked at only once the start is reached. -/
def phase? (r : Raffle) (now : Timestamp) : Option Phase :=
  if r.cancelled then some .cancelled
  else if r.claimed then some .claimed
  else if now < r.options.start then some .created
  else r.closing?.map fun closing =>
    if now < closing then .started
    else if r.randomness.isNone then .closed
    else .finished

end Raffle

end Tombola
