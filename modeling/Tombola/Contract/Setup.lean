import Tombola.Contract.Basic
import Tombola.Payment
import Tombola.Request

/-!
# Setting up and settings

How the configuration comes about and changes. Every way to set a value checks it in the same way.
-/

namespace Tombola.Contract

/-- The treasury can not take everything. -/
def checkCut (cut : Decimal) : Outcome Unit :=
  Outcome.ensure (cut < .one) (.invalidConfig (.cutTooLarge cut))

/-- The name of the contract has an allowed length. -/
def checkName (name : String) : Outcome Unit :=
  Outcome.ensure (Config.isValidName name) .invalidName

/-- The minimum duration is not below the least one. -/
def checkMinDuration (d : Seconds) : Outcome Unit :=
  Outcome.ensure (Config.leastMinDuration ≤ d) (.invalidConfig .noDuration)

/-- A raffle can sell at least one ticket. -/
def checkMaxTickets (n : TicketCount) : Outcome Unit :=
  Outcome.ensure (n ≠ 0) (.invalidConfig .noTickets)

/-- No denomination has two coins, zero coins apart. -/
def checkCreationFees (coins : List Coin) : Outcome Unit :=
  Outcome.ensure (Purse.ofCoins? coins).isSome (.invalidConfig .repeatedCreationFee)

/-- The oracle's address, when it is valid. What is wrong with it is not told. -/
def checkOracle (a : Address) : Outcome Address :=
  (a.check).mapError fun _ => .refused .invalidOracle

/-- Sets the contract up. The sender is owner and treasury where none is named. -/
def setup (s : Store) (caller : Caller) (r : SetupRequest) : Outcome Effect := do
  let oracle ← checkOracle r.oracle
  let creationFees := r.creationFees.getD [Config.defaultCreationFee]
  checkCreationFees creationFees
  checkCut r.cut
  checkName r.name
  let minDuration := r.minDuration.getD Config.defaultMinDuration
  checkMinDuration minDuration
  let maxTickets := r.maxTickets.getD Config.defaultMaxTickets
  checkMaxTickets maxTickets
  let owner ← (r.owner.getD caller.address).validate
  let treasury ← (r.treasury.getD caller.address).validate
  let config : Config := {
    name := r.name
    owner
    treasury
    lastRaffle := none
    minDuration
    minTimeout := r.minTimeout.getD Config.defaultMinTimeout
    maxTickets := some maxTickets
    cut := r.cut
    locks := ⟨false, false⟩
    oracle
    oracleFee := r.oracleFee
    creationFees }
  pure ({ s with config := some config, version := some .current },
    .ofAttributes [("action", "init"), ("contract", "raffle"), ("owner", owner)])

/-- Marks the store as written by the current version. -/
def migrate (s : Store) : Effect := ({ s with version := some .current }, .empty)

/-- The configuration, when the sender owns the contract. -/
def ownedConfig (s : Store) (sender : Address) : Outcome Config := do
  let config ← s.getConfig
  Outcome.ensure (sender = config.owner) .unauthorized
  pure config

/-- Applies a change when there is one. -/
def change {α : Type} (value : Option α) (config : Config)
    (apply : α → Config → Outcome Config) : Outcome Config :=
  match value with
  | none => pure config
  | some a => apply a config

/-- The configuration with the settings that a request names. -/
def revised (config : Config) (r : ConfigRequest) : Outcome Config := do
  let config ← change r.name config fun name c => do
    checkName name
    pure { c with name }
  let config ← change r.owner config fun a c => do
    let owner ← a.validate
    pure { c with owner }
  let config ← change r.treasury config fun a c => do
    let treasury ← a.validate
    pure { c with treasury }
  let config ← change r.minDuration config fun minDuration c => do
    checkMinDuration minDuration
    pure { c with minDuration }
  let config ← change r.minTimeout config fun minTimeout c => pure { c with minTimeout }
  let config ← change r.maxTickets config fun n c => do
    checkMaxTickets n
    pure { c with maxTickets := some n }
  let config ← change r.cut config fun cut c => do
    checkCut cut
    pure { c with cut }
  let config ← change r.oracle config fun a c => do
    let oracle ← checkOracle a
    pure { c with oracle }
  let config ← change r.oracleFee config fun oracleFee c => pure { c with oracleFee }
  change r.creationFees config fun creationFees c => do
    checkCreationFees creationFees
    pure { c with creationFees }

/-- Changes settings. The locks and the last raffle have ways of their own. -/
def updateConfig (s : Store) (caller : Caller) (r : ConfigRequest) : Outcome Effect := do
  let config ← ownedConfig s caller.address
  let config ← revised config r
  pure (s.putConfig config, .ofAttributes [("action", "update_config")])

/-- Sets the owner's lock. -/
def setLock (s : Store) (caller : Caller) (lock : Bool) : Outcome Effect := do
  let config ← ownedConfig s caller.address
  pure (s.putConfig { config with locks := { config.locks with owner := lock } },
    .ofAttributes [("action", "modify_parameter"), ("parameter", "contract_lock"),
      ("value", toString lock)])

/-- Sets the lock of the chain's governance. -/
def govern (s : Store) : GovernanceRequest → Outcome Effect
  | .setLock lock => do
    let config ← s.getConfig
    pure (s.putConfig { config with locks := { config.locks with governance := lock } },
      .ofAttributes [("action", "sudo_update_params"), ("parameter", "contract_lock"),
        ("value", toString lock)])

end Tombola.Contract
