import Tombola.Asset
import Tombola.Job

/-!
# Messages

What the contract asks of other parties when a request succeeds: coins to send and calls to make,
in order, and the attributes by which the outside learns what happened.
-/

namespace Tombola

/-- A call of a token collection or of the oracle. -/
inductive Call where
  | transferToken (recipient : Address) (token : TokenId)
  | nextRandomness (job : JobId)
  /-- The oracle answers only once the time is reached. -/
  | randomnessAfter (after : Timestamp) (job : JobId)
  deriving DecidableEq

/-- Coins to send, or a contract to call with coins attached. -/
inductive Message where
  | send (recipient : Address) (coins : List Coin)
  | call (contract : Address) (call : Call) (funds : List Coin)
  deriving DecidableEq

/-- One thing that the outside learns of a request. -/
structure Attribute where
  key : String
  value : String
  deriving DecidableEq

/-- What the contract replies to a request that succeeds. -/
structure Response where
  messages : List Message
  attributes : List Attribute
  deriving DecidableEq

namespace Response

/-- A response that asks for nothing and tells nothing. -/
def empty : Response := ⟨[], []⟩

/-- A response without messages. -/
def ofAttributes (attributes : List (String × String)) : Response :=
  ⟨[], attributes.map fun a => ⟨a.1, a.2⟩⟩

/-- A response with messages, in the order in which they are carried out. -/
def withMessages (messages : List Message) (attributes : List (String × String)) : Response :=
  ⟨messages, attributes.map fun a => ⟨a.1, a.2⟩⟩

end Response

end Tombola
