import Tombola.Message
import Tombola.Ownership
import Tombola.Request

/-!
# What parties on the chain ask of each other

The chain holds three contracts: the raffle contract, a token collection and a randomness oracle. A
packet is a request to one of them. A contract that accepts a packet replies with attributes and
orders, and the chain carries out the orders.
-/

namespace Tombola.Chain

/-- The contracts on the chain. -/
inductive Party where
  | oracle
  | collection
  | raffle
  deriving DecidableEq

namespace Party

/-- The contracts in the order in which they were put on the chain. -/
def all : List Party := [.oracle, .collection, .raffle]

/-- Where a contract is reached. -/
def address : Party → Address
  | .oracle => "contract0"
  | .collection => "contract1"
  | .raffle => "contract2"

/-- The contract at an address. -/
def at? (address : Address) : Option Party := all.find? fun p => p.address == address

end Party

/-- What the token collection can be asked to do. Handing on the right to mint is left out, so the
minter stays the same. -/
inductive CollectionRequest where
  | mint (token : TokenId) (owner : Address)
  | transfer (recipient : Address) (token : TokenId)
  /-- Moves a token to a contract and tells the contract. -/
  | send (contract : Address) (token : TokenId) (payload : Bytes)
  /-- Ends a token. -/
  | burn (token : TokenId)
  | approve (spender : Address) (token : TokenId) (expires : Option Expiration)
  | revoke (spender : Address) (token : TokenId)
  /-- Allows an operator to move all tokens of the sender. -/
  | approveAll (operator : Address) (expires : Option Expiration)
  | revokeAll (operator : Address)
  deriving DecidableEq

/-- A job for the oracle, to be answered as soon as possible or only after a time. -/
inductive OracleRequest where
  | next (job : JobId)
  | after (time : Timestamp) (job : JobId)
  deriving DecidableEq

/-- A message to one of the contracts, as the contract reads it. -/
inductive Packet where
  | raffle (request : Request)
  | collection (request : CollectionRequest)
  | oracle (request : OracleRequest)
  /-- A text that the contract does not decode. -/
  | unreadable
  deriving DecidableEq

/-- What a contract has the chain do: coins to send, or a contract to call. -/
inductive Order where
  | send (recipient : Address) (coins : List Coin)
  | call (contract : Address) (packet : Packet) (funds : List Coin)
  deriving DecidableEq

namespace Packet

/-- The packet that a call of the raffle contract arrives as. -/
def ofCall : Call → Packet
  | .transferToken recipient token => .collection (.transfer recipient token)
  | .nextRandomness job => .oracle (.next job)
  | .randomnessAfter time job => .oracle (.after time job)

end Packet

namespace Order

/-- A message of the raffle contract as an order to the chain. -/
def ofMessage : Message → Order
  | .send recipient coins => .send recipient coins
  | .call contract c funds => .call contract (.ofCall c) funds

end Order

/-- What a contract gives back when it accepts a packet. -/
structure Reply where
  attributes : List Attribute
  orders : List Order

namespace Reply

/-- A reply with the attributes given as pairs of key and value. -/
def of (attributes : List (String × String)) (orders : List Order) : Reply :=
  ⟨attributes.map fun a => ⟨a.1, a.2⟩, orders⟩

/-- The reply that a response of the raffle contract makes. -/
def ofResponse (r : Response) : Reply := ⟨r.attributes, r.messages.map .ofMessage⟩

end Reply

/-- What the outside learns of a transaction. -/
inductive Event where
  | contract (address : Address) (attributes : List Attribute)
  | transfer (recipient sender : Address) (coins : List Coin)
  deriving DecidableEq

/-- The height and the time that expirations are judged by, and the name of the chain. -/
structure Block where
  height : UInt64
  time : Timestamp
  chainId : String
  deriving DecidableEq

namespace Block

/-- The expiration has come by this block. -/
def isAfter (b : Block) : Expiration → Bool
  | .atHeight height => height ≤ b.height
  | .atTime time => time ≤ b.time
  | .never => false

end Block

end Tombola.Chain
