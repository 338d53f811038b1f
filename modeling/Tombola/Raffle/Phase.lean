/-!
# The phases of a raffle

A raffle is created, sells tickets from its start on, closes, is finished once randomness is there,
and is claimed. It can be cancelled on the way.
-/

namespace Tombola

/-- Where a raffle is in its life. -/
inductive Phase where
  | created
  | started
  | closed
  | finished
  | claimed
  | cancelled
  deriving DecidableEq

namespace Phase

/-- The phases in the order of a raffle's life, the cancelled one last. -/
def all : List Phase := [.created, .started, .closed, .finished, .claimed, .cancelled]

/-- The name of a phase, as filters and messages have it. -/
def text : Phase → String
  | .created => "created"
  | .started => "started"
  | .closed => "closed"
  | .finished => "finished"
  | .claimed => "claimed"
  | .cancelled => "cancelled"

end Phase

end Tombola
