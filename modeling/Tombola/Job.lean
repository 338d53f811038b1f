import Tombola.Raffle.Basic

/-!
# Randomness jobs

A job is one request for randomness. Its id names the raffle, and from the second request on the
attempt too.
-/

namespace Tombola

/-- The name that a request for randomness goes by. -/
abbrev JobId := String

/-- What the contract keeps about a request for randomness. -/
structure Job where
  raffle : RaffleId
  /-- The earliest time at which the oracle can answer. -/
  pendingSince : Timestamp
  attempt : UInt32
  deriving DecidableEq

namespace Job

/-- The name of the job of an attempt: attempts after the first are numbered in it. -/
def id (raffle : RaffleId) (attempt : UInt32) : JobId :=
  if attempt = 0 then "raffle-" ++ toString raffle.toNat
  else "raffle-" ++ toString raffle.toNat ++ "-" ++ toString attempt.toNat

end Job

end Tombola
