import Tombola.Ledger
import Tombola.Raffle.Options

/-!
# Requests

What the contract can be asked: to be set up, to do something for a caller, to answer a question,
and what the chain's governance can order.
-/

namespace Tombola

/-- The settings that the contract is set up with. What is left out takes its default. -/
structure SetupRequest where
  name : String
  oracle : Address
  oracleFee : Coin
  owner : Option Address
  treasury : Option Address
  minDuration : Option Seconds
  minTimeout : Option Seconds
  maxTickets : Option TicketCount
  cut : Decimal
  creationFees : Option (List Coin)
  deriving DecidableEq

/-- A new raffle: its prizes, the price of a ticket, and the options that are chosen. -/
structure CreateRequest where
  owner : Option Address
  prizes : List Asset
  options : OptionsRequest
  price : Asset
  /-- Whether randomness is asked for at once, to come when the raffle closes. -/
  autocycle : Option Bool
  deriving DecidableEq

/-- The settings to change; what is left out stays. -/
structure ConfigRequest where
  name : Option String
  owner : Option Address
  treasury : Option Address
  minDuration : Option Seconds
  minTimeout : Option Seconds
  maxTickets : Option TicketCount
  cut : Option Decimal
  oracle : Option Address
  oracleFee : Option Coin
  creationFees : Option (List Coin)
  deriving DecidableEq

/-- The price and the options of a raffle to change; what is left out stays. -/
structure ModifyRequest where
  raffle : RaffleId
  price : Option Asset
  options : OptionsRequest
  deriving DecidableEq

/-- The number of tickets to buy, and of which raffle. -/
structure BuyRequest where
  raffle : RaffleId
  count : TicketCount
  /-- What the caller says to have attached. -/
  payment : Asset
  deriving DecidableEq

/-- A collection's notice that it has moved a token to the contract. -/
structure DepositRequest where
  sender : Address
  token : TokenId
  /-- A request of its own, as the bytes of its text. -/
  payload : Bytes
  deriving DecidableEq

/-- The oracle's answer to a job. -/
structure RandomnessAnswer where
  job : JobId
  published : Timestamp
  randomness : Bytes
  deriving DecidableEq

/-- What a caller can ask the contract to do. -/
inductive Request where
  | create (request : CreateRequest)
  | cancel (raffle : RaffleId)
  | updateConfig (request : ConfigRequest)
  | modify (request : ModifyRequest)
  | buy (request : BuyRequest)
  | deposit (request : DepositRequest)
  | determineWinner (raffle : RaffleId)
  | receiveRandomness (answer : RandomnessAnswer)
  | claim (raffle : RaffleId)
  | setLock (lock : Bool)
  | updateRandomness (raffle : RaffleId)
  deriving DecidableEq

/-- What the chain's governance can order. -/
inductive GovernanceRequest where
  | setLock (lock : Bool)
  deriving DecidableEq

/-- Which raffles are listed. -/
structure Filters where
  phases : Option (List String)
  owner : Option Address
  /-- Only raffles that this address has bought tickets of. -/
  buyer : Option Address
  /-- Only raffles with a prize of this collection or denomination. -/
  prizeKey : Option String
  deriving DecidableEq

namespace Filters

/-- All raffles are listed. -/
def none : Filters := ⟨.none, .none, .none, .none⟩

end Filters

/-- One page of the list of raffles. -/
structure RafflesPage where
  after : Option RaffleId
  limit : Option UInt32
  filters : Option Filters
  deriving DecidableEq

/-- One page of the list of a raffle's tickets. -/
structure TicketsPage where
  raffle : RaffleId
  after : Option Slot
  limit : Option UInt32
  deriving DecidableEq

/-- What the contract can be asked about. -/
inductive Question where
  | config
  | raffle (id : RaffleId)
  | raffles (page : RafflesPage)
  | tickets (page : TicketsPage)
  | ticketCount (buyer : Address) (raffle : RaffleId)
  deriving DecidableEq

end Tombola
