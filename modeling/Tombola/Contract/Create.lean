import Tombola.Contract.Randomness
import Tombola.Contract.Sale
import Tombola.Wire.Request

/-!
# Creating raffles

A raffle comes about in two ways. A caller can bring the prizes along: tokens that the caller owns
are moved to the contract, coins come out of the attached funds, and what is left of the funds has
to be exactly one accepted creation fee and, on request, the oracle's fee. Or a collection tells
that it has moved a token to the contract, and the token is the only prize.
-/

namespace Tombola.Contract

/-- Tickets are sold for coins, and not for nothing. -/
def checkPrice : Asset → Outcome Unit
  | .coin c => Outcome.ensure (!c.amount.isZero) (.invalidAssets .freeTicket)
  | _ => Outcome.refuse (.invalidAssets .tokenPrice)

/-- There is a prize, no two prizes have the same identity, and none is an empty coin. -/
def checkPrizes (prizes : List Asset) : Outcome Unit := do
  Outcome.ensure (!prizes.isEmpty) (.invalidAssets .noPrize)
  Outcome.ensure (Asset.allDistinct prizes) (.invalidAssets .repeatedPrize)
  Outcome.ensure (!prizes.any Asset.isEmptyCoin) (.invalidAssets .emptyPrize)

/-- The message that hands an asset to a receiver. -/
def transfer (receiver : Address) : Asset → Message
  | .cw721 t => .call t.collection (.transferToken receiver t.id) []
  | .sg721 t => .call t.collection (.transferToken receiver t.id) []
  | .coin c => .send receiver [c]

/-- The messages that hand all prizes of a raffle to a receiver. -/
def prizeMessages (r : Raffle) (receiver : Address) : List Message :=
  r.prizes.map (transfer receiver)

/-- Takes prizes into custody, in order: tokens by messages, coins out of the purse. -/
def takePrizes (env : Surroundings) (sender : Address) :
    List Asset → Purse → Outcome (List Message × Purse)
  | [], purse => pure ([], purse)
  | asset :: rest, purse =>
    match asset with
    | .coin c => do
      let purse ← Payment.take purse c
      takePrizes env sender rest purse
    | .cw721 t | .sg721 t => do
      env.ensureOwner sender t
      let (messages, purse) ← takePrizes env sender rest purse
      pure (transfer env.self asset :: messages, purse)

/-- The tokens whose owner is asked for while prizes are taken: up to the first that fails. -/
def askedTokens (env : Surroundings) (sender : Address) : List Asset → Purse → List Token
  | [], _ => []
  | asset :: rest, purse =>
    match asset with
    | .coin c =>
      match Payment.take purse c with
      | .ok purse => askedTokens env sender rest purse
      | .error _ => []
    | .cw721 t | .sg721 t =>
      match env.ensureOwner sender t with
      | .ok _ => t :: askedTokens env sender rest purse
      | .error _ => [t]

/-- Keeps a new raffle under the id after the last one. -/
def enterRaffle (s : Store) (now : Timestamp) (config : Config) (owner : Address)
    (prizes : List Asset) (price : Asset) (options : OptionsRequest) :
    Outcome (Store × RaffleId × Raffle) := do
  let kept ← s.getConfig
  let next ← match kept.lastRaffle with
    | none => pure (some 0)
    | some last =>
      if last.toNat + 1 < UInt64.size then pure (some (last + 1)) else .error .aborted
  let s := s.putConfig { kept with lastRaffle := next }
  let id ← Outcome.orRefuse .inconsistent next
  Outcome.ensure (s.raffles.get? id).isNone .raffleExists
  let raffle : Raffle := {
    owner
    prizes
    price
    sold := 0
    randomness := none
    winner := none
    cancelled := false
    claimed := false
    options := .ofRequest now prizes.length options config }
  pure (s.putRaffle id raffle, id, raffle)

/-- The owner that a request names, or the one it would otherwise have. -/
def namedOwner (named : Option Address) (otherwise : Address) : Outcome Address :=
  match named with
  | some a => a.validate
  | none => pure otherwise

/-- What is looked at before any prize is taken, and the purse of the attached funds. -/
def createChecks (s : Store) (caller : Caller) (r : CreateRequest) : Outcome (Config × Purse) := do
  let config ← s.getConfig
  Outcome.ensure (!config.locks.locked) .locked
  checkPrizes r.prizes
  checkPrice r.price
  r.options.check config
  let purse ← Payment.purseOf caller.funds
  pure (config, purse)

/-- Takes prizes, the oracle's fee when it is due and the creation fee out of the purse, which is
empty then. The messages take the tokens and pay the creation fee. -/
def collect (env : Surroundings) (config : Config) (caller : Caller) (r : CreateRequest)
    (purse : Purse) : Outcome (List Message) := do
  let (messages, purse) ← takePrizes env caller.address r.prizes purse
  let purse ← if r.autocycle.getD false then Payment.take purse config.oracleFee else pure purse
  let (messages, purse) ← match ← Payment.creationFee purse config.creationFees with
    | some fee => do
      let purse ← Payment.take purse fee
      pure (messages ++ [.send config.treasury [fee]], purse)
    | none => pure (messages, purse)
  Outcome.ensure purse.isEmpty (.invalidAssets (.surplus purse.toList))
  pure messages

/-- How the outside learns of a new raffle. -/
def creationAttributes (id : RaffleId) (owner : Address) : List (String × String) :=
  [("action", "create_raffle"), ("raffle_id", toString id.toNat), ("owner", owner)]

/-- Creates a raffle from what the caller brings along. -/
def create (s : Store) (env : Surroundings) (caller : Caller) (r : CreateRequest) :
    Outcome Effect := do
  let (config, purse) ← createChecks s caller r
  let messages ← collect env config caller r purse
  let owner ← namedOwner r.owner caller.address
  let (s, id, raffle) ← enterRaffle s env.now config owner r.prizes r.price r.options
  if r.autocycle.getD false then
    let closing ← Outcome.orAbort raffle.closing?
    let (s, job, call) := requestRandomness s env.now config id 0 (some closing)
    pure (s, .withMessages (messages ++ [call]) (("job_id", job) :: creationAttributes id owner))
  else pure (s, .withMessages messages (creationAttributes id owner))

/-- The tokens whose owner is asked for when a raffle is created. -/
def tokensAskedFor (s : Store) (env : Surroundings) (caller : Caller) (r : CreateRequest) :
    List Token :=
  match createChecks s caller r with
  | .ok (_, purse) => askedTokens env caller.address r.prizes purse
  | .error _ => []

/-- The prizes are the one token that a collection has moved. -/
def holdsOnly (prizes : List Asset) (received : Token) : Bool :=
  match prizes with
  | [.cw721 t] | [.sg721 t] => t == received
  | _ => false

/-- Creates a raffle of a token that has just arrived. No coins come along, so the creation has to
be free and no randomness can be asked for. -/
def deposit (s : Store) (env : Surroundings) (caller : Caller) (d : DepositRequest) :
    Outcome Effect := do
  let sender ← d.sender.validate
  match ← Outcome.orRefuse .undecodable (Wire.request.decodeBytes? d.payload) with
  | .create r =>
    let config ← s.getConfig
    Outcome.ensure (!config.locks.locked) .locked
    Outcome.ensure (holdsOnly r.prizes ⟨caller.address, d.token⟩) (.invalidAssets .notReceived)
    checkPrice r.price
    r.options.check config
    let _ ← Payment.creationFee .empty config.creationFees
    Outcome.ensure (!r.autocycle.getD false) (.insufficientFunds config.oracleFee)
    let owner ← namedOwner r.owner sender
    let (s, id, _) ← enterRaffle s env.now config owner r.prizes r.price r.options
    pure (s, .ofAttributes (creationAttributes id owner))
  | _ => Outcome.refuse .unauthorized

end Tombola.Contract
