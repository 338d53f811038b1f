import Tombola.Message
import Tombola.Store

/-!
# The surroundings of a request

What the contract learns from outside: the time, its own address, who owns a token, who is calling
and which coins the caller has attached. A request either gives a new store and a response, or it is
refused or aborts and the store stays as it was.
-/

namespace Tombola

/-- What the contract can see beyond its store. -/
structure Surroundings where
  now : Timestamp
  /-- The address of the contract. -/
  self : Address
  /-- The owner of a token, as its collection tells. -/
  ownerOf : Address → TokenId → Except Refusal Address

/-- Who sends a request, and the coins attached to it. -/
structure Caller where
  address : Address
  funds : List Coin

/-- What a request that succeeds leaves behind. -/
abbrev Effect := Store × Response

namespace Surroundings

/-- The caller owns the token. -/
def ensureOwner (env : Surroundings) (caller : Address) (token : Token) : Outcome Unit := do
  let owner ← (env.ownerOf token.collection token.id).mapError Fault.refused
  Outcome.ensure (owner = caller) .unauthorized

end Surroundings

end Tombola
