import Tombola.Config
import Tombola.Job

/-!
# Refusals

Why a request is refused, as a cause, and what is said about it. A request can also abort: its
arithmetic would leave the range of a counter or of a timestamp, and nothing is said.
-/

namespace Tombola

/-- What is wrong with a setting of the contract. -/
inductive ConfigFlaw where
  | cutTooLarge (cut : Decimal)
  | noDuration
  | noTickets
  | repeatedCreationFee
  deriving DecidableEq

namespace ConfigFlaw

/-- The flaw, as it is told after the words for a bad configuration. -/
def message : ConfigFlaw → String
  | .cutTooLarge cut => "raffle fee must be lower than 1, got " ++ cut.text
  | .noDuration =>
    "minimum raffle duration must be at least " ++ toString Config.leastMinDuration.toNat ++
      " second"
  | .noTickets => "a raffle must allow at least one ticket"
  | .repeatedCreationFee => "creation coins: Duplicate denom"

end ConfigFlaw

/-- What is wrong with prizes, prices or attached funds. -/
inductive AssetFlaw where
  | noPrize
  | repeatedPrize
  | emptyPrize
  | freeTicket
  | tokenPrice
  | surplus (left : List Coin)
  | notReceived
  | noTicket
  | wrongDenom (denom : Denom)
  | fundsDiffer
  | overpaid (cost : Coin)
  | oracleFee (fee : Coin)
  deriving DecidableEq

namespace AssetFlaw

/-- The flaw, as it is told after the words for bad assets. -/
def message : AssetFlaw → String
  | .noPrize => "please include at least one asset"
  | .repeatedPrize => "the same asset can't be raffled twice"
  | .emptyPrize => "coin prizes can't be empty"
  | .freeTicket => "the ticket price can't be zero"
  | .tokenPrice => "tickets can only be bought with native coins"
  | .surplus left => "unexpected funds sent: " ++ Coin.listText left
  | .notReceived => "the raffle must only hold the received token"
  | .noTicket => "at least one ticket must be bought"
  | .wrongDenom denom => "tickets for this raffle are paid in " ++ denom
  | .fundsDiffer => "the attached funds don't match the sent assets"
  | .overpaid cost => "overpaying tickets, expected " ++ cost.text
  | .oracleFee fee => "the oracle fee must be exactly " ++ fee.text

end AssetFlaw

/-- Why a payment does not match what is asked. -/
inductive PaymentFlaw where
  | notOneCoin (sent : List Coin)
  | otherCoin (expected : Coin) (sent : List Coin)
  | missing (expected : Coin) (left : Amount)
  | noAcceptedFee (accepted : List Coin)
  deriving DecidableEq

namespace PaymentFlaw

/-- The reason, as it is told after the words for a generic error. -/
def message : PaymentFlaw → String
  | .notOneCoin sent =>
    "You need to send exactly one coin for payment, received " ++ Coin.listText sent
  | .otherCoin expected sent =>
    "Invalid payment sent. Expected " ++ expected.text ++ ", sent " ++ Coin.listText sent
  | .missing expected left =>
    "Missing funds, expected " ++ expected.text ++ " but only " ++ left.text ++ expected.denom ++
      " is left"
  | .noAcceptedFee accepted => "Fee payment missing, expected one of " ++ Coin.listText accepted

end PaymentFlaw

/-- Why a collection does not tell who owns a token. -/
inductive LookupFlaw where
  | noContract (address : Address)
  | rejected (reason : String)
  deriving DecidableEq

namespace LookupFlaw

/-- The reason, as it is told after the words for a generic error. -/
def message : LookupFlaw → String
  | .noContract address => "Querier system error: No such contract: " ++ address
  | .rejected reason => "Querier contract error: " ++ reason

end LookupFlaw

/-- An entry of the store that a request needs. -/
inductive Entry where
  | config
  | raffle (id : RaffleId)
  | job (id : JobId)
  deriving DecidableEq

namespace Entry

/-- A number in as many bytes as asked, the highest byte first. -/
def bigEndian : Nat → Nat → Bytes
  | 0, _ => []
  | width + 1, n => bigEndian width (n / 256) ++ [UInt8.ofNat n]

/-- The key of an entry of a map: the length of the map's name in two bytes, the name and the key
within the map. -/
def mapKey (name : String) (key : Bytes) : Bytes :=
  bigEndian 2 name.utf8ByteSize ++ Text.utf8 name ++ key

/-- The bytes under which an entry is kept. -/
def key : Entry → Bytes
  | .config => Text.utf8 "config"
  | .raffle id => mapKey "raffle_info" (bigEndian 8 id.toNat)
  | .job id => mapKey "randomness_jobs" (Text.utf8 id)

/-- The type by which a missing entry is reported. -/
def typeName : Entry → String
  | .config => "raffles::state::Config"
  | .raffle _ => "raffles::state::RaffleInfo"
  | .job _ => "raffles::state::RandomnessJob"

/-- How a missing entry is reported, by its type and its key. -/
def missingText (typeName : String) (key : Bytes) : String :=
  "type: " ++ typeName ++ "; key: " ++ Text.Hex.listText key ++ " not found"

end Entry

/-- What a raffle is asked to do when its phase does not allow it. -/
inductive Action where
  | cancel
  | modify
  | reschedule
  | buyTickets
  | determineWinner
  | receiveRandomness
  | claim
  | updateRandomness
  deriving DecidableEq

namespace Action

/-- The action, as it is told in a refusal. -/
def text : Action → String
  | .cancel => "cancel"
  | .modify => "modify"
  | .reschedule => "reschedule an autocycle raffle"
  | .buyTickets => "buy tickets"
  | .determineWinner => "determine the winner"
  | .receiveRandomness => "receive randomness"
  | .claim => "claim"
  | .updateRandomness => "update randomness"

end Action

/-- What a limit on tickets is for: one buyer or the whole raffle. -/
inductive LimitScope where
  | buyer
  | raffle
  deriving DecidableEq

namespace LimitScope

/-- The scope, as it is told in a refusal. -/
def text : LimitScope → String
  | .buyer => "address"
  | .raffle => "raffle"

end LimitScope

/-- Why a request is refused. -/
inductive Refusal where
  | unauthorized
  | invalidOracle
  | invalidName
  | invalidConfig (flaw : ConfigFlaw)
  | locked
  | invalidAssets (flaw : AssetFlaw)
  | insufficientFunds (needed : Coin)
  | wrongPhase (action : Action) (phase : Phase)
  | ticketLimit (scope : LimitScope) (limit before after : TicketCount)
  | unknownJob (id : JobId)
  | durationTooShort (min : Seconds)
  | timeoutTooShort (min : Seconds)
  | commentTooLarge (size max : Nat)
  | alreadyDrawn
  | invalidRandomness
  | randomnessPending (window : Seconds)
  | raffleExists
  /-- The store contradicts itself. -/
  | inconsistent
  | repeatedDenom
  | invalidAddress (flaw : AddressFlaw)
  | payment (flaw : PaymentFlaw)
  | lookup (flaw : LookupFlaw)
  | missing (entry : Entry)
  /-- A product that no amount can hold. -/
  | overflow (factor count : Nat)
  | randomnessSize (actual : Nat)
  | undecodable
  deriving DecidableEq

namespace Refusal

/-- The number of bytes of randomness. -/
def randomnessBytes : Nat := 32

/-- The product that overflows. -/
def overflowText (factor count : Nat) : String :=
  "Cannot Mul with " ++ toString factor ++ " and " ++ toString count

/-- The frame of refusals that have no kind of their own. -/
def generic (text : String) : String := "Generic error: " ++ text

/-- What a caller is told. The text of a payload that does not decode is left open. -/
def message : Refusal → String
  | .unauthorized => "Unauthorized."
  | .invalidOracle => "Proxy address is not valid"
  | .invalidName => "Name is not in the expected format (3-50 UTF-8 bytes)"
  | .invalidConfig flaw => "Invalid configuration: " ++ flaw.message
  | .locked => "This action is not allowed, the contract is locked"
  | .invalidAssets flaw => "Invalid assets: " ++ flaw.message
  | .insufficientFunds needed => "Insufficient funds, expected at least " ++ needed.text
  | .wrongPhase action phase => "Cannot " ++ action.text ++ " while the raffle is " ++ phase.text
  | .ticketLimit scope limit before after =>
    "Too many tickets for this " ++ scope.text ++ ". Max : " ++ toString limit.toNat ++
      ", Number before purchase : " ++ toString before.toNat ++
      ", Number after purchase : " ++ toString after.toNat
  | .unknownJob id => "No outstanding randomness request for job " ++ id
  | .durationTooShort min =>
    "The raffle duration must be at least " ++ toString min.toNat ++ " seconds"
  | .timeoutTooShort min =>
    "The raffle timeout must be at least " ++ toString min.toNat ++ " seconds"
  | .commentTooLarge size max =>
    "The raffle comment is (" ++ toString size ++ ") bytes, must be <=  (" ++ toString max ++
      ") bytes"
  | .alreadyDrawn => "Randomness has already been provided to this raffle"
  | .invalidRandomness => "Received invalid randomness"
  | .randomnessPending window =>
    "Randomness was requested less than " ++ toString window.toNat ++ " seconds ago"
  | .raffleExists => "Key already exists in RaffleInfo"
  | .inconsistent => "An unplanned bug just happened :/"
  | .repeatedDenom => "Duplicate denom"
  | .invalidAddress (.cutCharacter position) =>
    "Cannot decode UTF8 bytes into string: " ++ AddressFlaw.message (.cutCharacter position)
  | .invalidAddress flaw => generic ("Invalid input: " ++ flaw.message)
  | .payment flaw => generic flaw.message
  | .lookup flaw => generic flaw.message
  | .missing entry => Entry.missingText entry.typeName entry.key
  | .overflow factor count => "Overflow: " ++ overflowText factor count
  | .randomnessSize actual =>
    "Invalid data size: expected=" ++ toString randomnessBytes ++ " actual=" ++ toString actual
  | .undecodable => "The text does not decode"

end Refusal

/-- How a request goes wrong: it is refused for a cause, or it aborts. -/
inductive Fault where
  | refused (cause : Refusal)
  | aborted
  deriving DecidableEq

/-- What comes of a request: a result or a fault. -/
abbrev Outcome := Except Fault

namespace Outcome

/-- Refuses for a cause. -/
def refuse {α : Type} (cause : Refusal) : Outcome α := .error (.refused cause)

/-- Aborts when there is no value. -/
def orAbort {α : Type} : Option α → Outcome α
  | some a => .ok a
  | none => .error .aborted

/-- Refuses when there is no value. -/
def orRefuse {α : Type} (cause : Refusal) : Option α → Outcome α
  | some a => .ok a
  | none => refuse cause

/-- Refuses unless the condition holds. -/
def ensure (condition : Bool) (cause : Refusal) : Outcome Unit :=
  if condition then .ok () else refuse cause

end Outcome

/-- An address out of a request, which has to be a valid one. -/
def Address.validate (a : Address) : Outcome Address :=
  (a.check).mapError fun flaw => .refused (.invalidAddress flaw)

end Tombola
