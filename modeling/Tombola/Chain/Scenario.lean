import Tombola.Chain.Genesis
import Tombola.Chain.Transaction

/-!
# Scenarios

What accounts do on the chain in a scenario. An act may consist of several transactions, and those
before the first that fails stay. Where a scenario relies on something that does not hold, it
aborts.
-/

namespace Tombola.Chain

/-- Something done on the chain. The chain it leaves behind stays also when it goes wrong. -/
abbrev Act := ExceptT Trouble (StateM Chain)

namespace Act

variable {α : Type}

/-- Changes the chain as far as that succeeds. -/
def tried (f : Chain → Attempt (Chain × α)) : Act α := fun c =>
  match f c with
  | .ok (c, a) => (.ok a, c)
  | .error trouble => (.error trouble, c)

/-- Looks at the chain. -/
def look (f : Chain → Attempt α) : Act α := tried fun c => do pure (c, ← f c)

/-- Aborts instead of failing. -/
def orAbort (act : Act α) : Act α := fun c =>
  let (result, c) := act c
  (Attempt.orAbort result, c)

/-- A transaction of an account with one of the contracts. -/
def transact (sender : Address) (party : Party) (packet : Packet) (funds : List Coin) :
    Act (List Event) :=
  tried fun c => execute c sender party packet funds

/-- A request of an account to the raffle contract. -/
def request (sender : Address) (r : Request) (funds : List Coin) : Act (List Event) :=
  transact sender .raffle (.raffle r) funds

/-- Succeeds when the act fails and this is the text it is first reported with. -/
def expectFramed (act : Act α) (text : String) : Act Unit := fun c =>
  match act c with
  | (.error trouble, c) =>
    (if trouble.framedText? = some text then .ok () else .error .aborted, c)
  | (.ok _, c) => (.error .aborted, c)

/-- Succeeds when the act fails and this is the innermost cause. -/
def expectRoot (act : Act α) (text : String) : Act Unit := fun c =>
  match act c with
  | (.error trouble, c) => (if trouble.rootText? = some text then .ok () else .error .aborted, c)
  | (.ok _, c) => (.error .aborted, c)

/-! ## Coins -/

/-- What an account gets of each coin. -/
def startingAmount : Amount := .ofWord 100000000000000

/-- The coins that an account gets. -/
def startingCoins : List Coin :=
  [⟨Oracle.fee.denom, startingAmount⟩, ⟨Config.nativeDenom, startingAmount⟩,
    ⟨"uflix", startingAmount⟩]

/-- Gives each account the coins to start with. -/
def fund (accounts : List Address) : Act Unit :=
  for account in accounts do
    orAbort <| tried fun c => do pure ({ c with bank := ← c.bank.mint account startingCoins }, ())

/-- A raffle owner and two buyers. -/
def accounts : List Address := ["owner", "buyer-one", "buyer-two"]

/-- The accounts that take part in a raffle with more than two buyers. -/
def participants : List Address :=
  ["addr-one", "addr-two", "addr-three", "addr-four", "addr-five", "addr-six"]

/-- Gives the raffle owner and the two buyers their coins. -/
def setUpAccounts : Act (List Address) := do
  fund accounts
  pure accounts

/-- Relies on the participants having had no coins. -/
def setUpParticipants : Act (List Address) := do
  fund participants
  let c ← get
  if (c.bank.purse "addr-one").amountOf Config.nativeDenom = startingAmount then pure participants
  else throw .aborted

/-! ## Raffles -/

/-- Mints a token and lets the raffle contract move all tokens of its owner. -/
def mintToken (account : Address) (token : TokenId) : Act Asset := do
  let _ ← orAbort <| transact owner .collection (.collection (.mint token account)) []
  let _ ← orAbort <|
    transact account .collection (.collection (.approveAll Party.raffle.address none)) []
  pure (.cw721 ⟨Party.collection.address, token⟩)

/-- What is chosen for a new raffle. -/
structure Offer where
  prizes : List Asset
  /-- The price of a ticket in the native denomination. -/
  price : Amount
  start : Option Timestamp
  duration : Option Seconds
  maxTickets : Option TicketCount
  maxPerBuyer : Option TicketCount
  autocycle : Option Bool

/-- Creates a raffle that is offered by an account. -/
def create (account : Address) (o : Offer) (funds : List Coin) : Act (List Event) :=
  let options := { OptionsRequest.empty with
    start := o.start, duration := o.duration, maxTickets := o.maxTickets,
    maxPerBuyer := o.maxPerBuyer }
  request account
    (.create ⟨none, o.prizes, options, .coin ⟨Config.nativeDenom, o.price⟩, o.autocycle⟩) funds

/-- What a number of tickets costs in the native denomination. -/
def ticketFunds (count : TicketCount) (price : Amount) : Act (List Coin) :=
  look fun _ => do
    let amount ← Attempt.ofOutcome (Outcome.orAbort (price.times? count.toNat))
    pure [⟨Config.nativeDenom, amount⟩]

/-- Every buyer in turn buys the same number of tickets. The events are those of the last one. -/
def buyAll (buyers : List Address) (raffle : RaffleId) (count : TicketCount) (funds : List Coin) :
    Act (List Event) :=
  match buyers, funds with
  | [], _ => look fun _ => Attempt.fail .noBuyer
  | _ :: _, [] => throw .aborted
  | _ :: _, payment :: _ =>
    buyers.foldlM (fun _ buyer => request buyer (.buy ⟨raffle, count, .coin payment⟩) funds) []

/-- The oracle delivers randomness, written as hexadecimal text. -/
def deliver (job : JobId) (randomness : String) : Act (List Event) := do
  let c ← get
  let bytes ← look fun _ =>
    (Text.Hex.read randomness).mapError fun flaw => .failed (.notHex flaw) false
  request Party.oracle.address (.receiveRandomness ⟨job, c.block.time, bytes⟩) []

/-! ## Time and questions -/

/-- Goes to the next block, some seconds later. -/
def advance (seconds : Seconds) : Act Unit :=
  orAbort <| tried fun c => do
    let time ← Attempt.ofOutcome (Outcome.orAbort (c.block.time.addSeconds? seconds))
    if c.block.height.toNat + 1 < UInt64.size then
      pure ({ c with block := { c.block with time, height := c.block.height + 1 } }, ())
    else .error .aborted

/-- Goes to a block of any time, height and chain; the height may be kept. -/
def setBlock (time : Timestamp) (height : Option UInt64) (chainId : String) : Act Unit :=
  modify fun c => { c with block := ⟨height.getD c.block.height, time, chainId⟩ }

/-- Asks the raffle contract something that has an answer. -/
def ask (q : Question) : Act Contract.Answer :=
  orAbort <| look fun c => Attempt.ofOutcome (Contract.answer c.raffle c.block.time q)

/-- The coins of an account; its address is checked. -/
def balances (account : Address) : Act (List Coin) :=
  orAbort <| look fun c => do
    let account ← Attempt.ofOutcome account.validate
    pure (c.bank.purse account).toList

/-- The owner of a token that exists. -/
def tokenOwner (token : TokenId) : Act Address :=
  orAbort <| look fun c => do pure (← c.collection.title token).owner

end Act

end Tombola.Chain
