import Tombola.Chain.Basic

/-!
# A new chain

A chain starts with the three contracts on it and no coins. What can be chosen is whether the oracle
answers by itself, the treasury's cut and the most tickets of a raffle.
-/

namespace Tombola.Chain

/-- What can be chosen about a new chain. -/
structure Setting where
  automatic : Bool
  cut : Decimal
  maxTickets : Option TicketCount
  deriving DecidableEq

namespace Setting

/-- The oracle answers by itself and nothing is cut. -/
def automaticOracle : Setting := ⟨true, .zero, none⟩

/-- The oracle is answered from outside and nothing is cut. -/
def manualOracle : Setting := ⟨false, .zero, none⟩

end Setting

/-- The owner of the raffle contract. -/
def owner : Address := "fee"

/-- Where the fees of the raffle contract go. -/
def treasury : Address := "collector"

/-- A new raffle is paid for with one of these coins. -/
def creationFees : List Coin :=
  [⟨Config.nativeDenom, .ofWord 50⟩, ⟨"uflix", .ofWord 20⟩]

/-- The block that a new chain is at. -/
def firstBlock : Block where
  height := 10000
  time := ⟨1647032400000000000⟩
  chainId := "cosmos-testnet-14002"

/-- How the raffle contract is set up; both minimums are left to their defaults. -/
def setupRequest (s : Setting) : SetupRequest where
  name := "raffle contract name"
  oracle := Party.oracle.address
  oracleFee := Oracle.fee
  owner := some owner
  treasury := some treasury
  minDuration := none
  minTimeout := none
  maxTickets := s.maxTickets
  cut := s.cut
  creationFees := some creationFees

/-- The new chain, as far as the raffle contract can be set up with the setting. -/
def genesis (s : Setting) : Outcome Chain := do
  let (raffle, _) ← Contract.setup .empty ⟨owner, []⟩ (setupRequest s)
  pure ⟨firstBlock, ∅, raffle, .empty, ⟨s.automatic, ∅⟩⟩

end Tombola.Chain
