import Tombola.Chain.Failure
import Tombola.Chain.Packet

/-!
# A randomness oracle

The oracle takes a job for a fee. It keeps the job until it is answered from outside, or, when it is
automatic, answers a job without a time at once and always in the same way.
-/

namespace Tombola.Chain

/-- Whether the oracle answers by itself, and the jobs it has been given. -/
structure Oracle where
  automatic : Bool
  /-- The accounts that have asked, by job. A job stays when it is answered. -/
  jobs : Table JobId Address

namespace Oracle

/-- What a job costs. -/
def fee : Coin := ⟨"unois", .ofWord 50⟩

/-- The randomness of an automatic answer. -/
def fixedRandomness : Bytes := List.replicate 30 0xaa ++ [0xa1, 0x15]

/-- Keeps a job until it is answered from outside. -/
def keep (o : Oracle) (sender : Address) (job : JobId) : Oracle × Reply :=
  ({ o with jobs := o.jobs.insert job sender },
    .of [("action", "register_job"), ("job_id", job)] [])

/-- The call that answers a job. -/
def answer (now : Timestamp) (sender : Address) (job : JobId) : Order :=
  .call sender (.raffle (.receiveRandomness ⟨job, now, fixedRandomness⟩)) []

/-- Takes a job for exactly the fee. Only a job without a time is answered at once. -/
def serve (o : Oracle) (now : Timestamp) (sender : Address) (funds : List Coin)
    (request : OracleRequest) : Attempt (Oracle × Reply) := do
  Attempt.ensure (funds = [fee]) .oracleUnpaid
  match request with
  | .next job =>
    pure (if o.automatic then (o, .of [] [answer now sender job]) else o.keep sender job)
  | .after _ job => pure (o.keep sender job)

end Oracle

end Tombola.Chain
