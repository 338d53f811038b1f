import Tombola.Asset
import Tombola.Decimal
import Tombola.Raffle.Basic

/-!
# The configuration

The settings that hold for all raffles. Two locks stop new raffles and ticket sales: one is the
owner's, the other that of the chain's governance.
-/

namespace Tombola

/-- The lock of the contract's owner and the lock of the chain's governance. -/
structure Locks where
  owner : Bool
  governance : Bool
  deriving DecidableEq

namespace Locks

/-- Either lock is set, which stops new raffles and ticket sales. -/
def locked (l : Locks) : Bool := l.owner || l.governance

end Locks

/-- The settings of the contract, and the id of the raffle created last. -/
structure Config where
  name : String
  owner : Address
  /-- Where the fees go. -/
  treasury : Address
  lastRaffle : Option RaffleId
  minDuration : Seconds
  minTimeout : Seconds
  /-- The most tickets that any raffle can sell. -/
  maxTickets : Option TicketCount
  /-- The part of the ticket sales that goes to the treasury. -/
  cut : Decimal
  locks : Locks
  /-- The contract that randomness is asked of. -/
  oracle : Address
  oracleFee : Coin
  /-- A new raffle is paid for with one of these coins. -/
  creationFees : List Coin
  deriving DecidableEq

namespace Config

/-- The denomination of the chain's own coin. -/
def nativeDenom : Denom := "ustars"

/-- What a raffle costs unless another fee is set up. -/
def defaultCreationFee : Coin := ⟨nativeDenom, .ofWord 100⟩

/-- The least duration of a raffle unless another is set up, in seconds. -/
def defaultMinDuration : Seconds := 1

/-- The least timeout of a raffle unless another is set up, in seconds. -/
def defaultMinTimeout : Seconds := 120

/-- The most tickets of a raffle unless another number is set up. -/
def defaultMaxTickets : TicketCount := 100000

/-- The least minimum duration that a configuration may ask for, in seconds. -/
def leastMinDuration : Seconds := 1

/-- A name has between three and fifty bytes. -/
def isValidName (name : String) : Bool := 3 ≤ name.utf8ByteSize && name.utf8ByteSize ≤ 50

end Config

end Tombola
