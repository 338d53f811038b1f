import Tombola.Contract.Listing
import Tombola.Contract.Settle
import Tombola.Contract.Setup

/-!
# The raffle contract

Each request goes to the operation that serves it.
-/

namespace Tombola.Contract

/-- What comes of a request that a caller sends. -/
def execute (s : Store) (env : Surroundings) (caller : Caller) : Request → Outcome Effect
  | .create r => create s env caller r
  | .cancel id => cancel s env caller id
  | .updateConfig r => updateConfig s caller r
  | .modify r => modify s env caller r
  | .buy r => buy s env caller r
  | .deposit d => deposit s env caller d
  | .determineWinner id => determineWinner s env caller id
  | .receiveRandomness a => receiveRandomness s env caller a
  | .claim id => claim s env id
  | .setLock lock => setLock s caller lock
  | .updateRandomness id => updateRandomness s env caller id

/-- The tokens whose owner is asked for while a request is served. -/
def asked (s : Store) (env : Surroundings) (caller : Caller) : Request → List Token
  | .create r => tokensAskedFor s env caller r
  | _ => []

end Tombola.Contract
