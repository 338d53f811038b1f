import Tombola.Refusal

/-!
# Failed transactions

Why a transaction on the chain fails. A failure is reported by its innermost cause; for a failure
that did not arise in a call made by a contract, there is also the text with which it was first
reported. The two differ only where a cause has a frame around it.
-/

namespace Tombola.Chain

/-- Why the bank does not move coins. -/
inductive BankFlaw where
  /-- No coin of the transfer is above zero. -/
  | nothingToMove
  | tooLow (balance amount : Amount)
  deriving DecidableEq

namespace BankFlaw

/-- The innermost cause in the words of the bank. -/
def message : BankFlaw → String
  | .nothingToMove => "Cannot transfer empty coins amount"
  | .tooLow balance amount => "Cannot Sub with " ++ balance.text ++ " and " ++ amount.text

/-- The cause with the frame in which the bank first reports it. -/
def framed : BankFlaw → String
  | .nothingToMove => message .nothingToMove
  | .tooLow balance amount => "Overflow: " ++ message (.tooLow balance amount)

end BankFlaw

/-- Why the collection refuses a request. -/
inductive CollectionFlaw where
  | notAllowed
  | alreadyClaimed
  | alreadyExpired
  | unknownToken (id : TokenId)
  deriving DecidableEq

namespace CollectionFlaw

/-- The type by which the collection reports a missing token. -/
def tokenTypeName : String :=
  "cw721_base::state::TokenInfo<core::option::Option<cosmwasm_std::results::empty::Empty>>"

/-- The reason in the words of the collection. -/
def message : CollectionFlaw → String
  | .notAllowed => "Caller is not the contract's current owner"
  | .alreadyClaimed => "token_id already claimed"
  | .alreadyExpired => "Cannot set approval that is already expired"
  | .unknownToken id =>
    Entry.missingText tokenTypeName (Entry.mapKey "tokens" (Text.utf8 id))

end CollectionFlaw

/-- Why the code of a contract is not replaced. -/
inductive MigrationFlaw where
  | unregistered
  | notAdmin (admin : Address)
  | invalidCode
  | unsupported
  deriving DecidableEq

namespace MigrationFlaw

/-- The reason in the words of the chain. -/
def message : MigrationFlaw → String
  | .unregistered => "Cannot migrate contract to unregistered code id"
  | .notAdmin admin =>
    "Only admin can migrate contract: Some(Addr(\"" ++ admin ++ "\"))"
  | .invalidCode => "code id: invalid"
  | .unsupported => "migrate not implemented for contract"

end MigrationFlaw

/-- Why a transaction fails, whichever part of the chain the cause lies in. -/
inductive Failure where
  /-- A contract refuses its request. -/
  | refused (cause : Refusal)
  | bank (flaw : BankFlaw)
  | collection (flaw : CollectionFlaw)
  /-- The oracle's fee is not attached. -/
  | oracleUnpaid
  | noContract (address : Address)
  | blankAttribute (key : String)
  | migration (flaw : MigrationFlaw)
  | notHex (flaw : Text.Hex.Flaw)
  | noBuyer
  | tooDeep
  deriving DecidableEq

namespace Failure

/-- The type by which the chain reports a missing contract. -/
def contractTypeName : String := "cw_multi_test::wasm::ContractData"

/-- The innermost cause; nothing is said of a text that does not decode. -/
def rootText? : Failure → Option String
  | .refused .undecodable => none
  | .refused (.overflow factor count) => some (Refusal.overflowText factor count)
  | .refused cause => some cause.message
  | .bank flaw => some flaw.message
  | .collection flaw => some flaw.message
  | .oracleUnpaid => some (Refusal.generic "Nois not enough funds sent to proxy")
  | .noContract address =>
    some (Entry.missingText contractTypeName (Entry.mapKey "contracts" (Text.utf8 address)))
  | .blankAttribute key => some ("Empty attribute value. Key: " ++ key)
  | .migration flaw => some flaw.message
  | .notHex flaw => some flaw.message
  | .noBuyer => some "no ticket buyer"
  | .tooDeep => some "Calls are nested too deeply"

/-- The text that a failure is first reported with. What never reaches the chain has none. -/
def framedText? : Failure → Option String
  | .refused .undecodable => none
  | .refused cause => some cause.message
  | .bank flaw => some flaw.framed
  | .notHex _ => none
  | .noBuyer => none
  | failure => failure.rootText?

end Failure

/-- How an attempt goes wrong: it fails for a cause, or it aborts. -/
inductive Trouble where
  /-- The failure is nested when it arose in a call made by a contract. -/
  | failed (cause : Failure) (nested : Bool)
  | aborted
  deriving DecidableEq

/-- What comes of something tried on the chain. -/
abbrev Attempt := Except Trouble

namespace Attempt

variable {α : Type}

/-- Fails for a cause, outside of any nested call. -/
def fail (cause : Failure) : Attempt α := .error (.failed cause false)

/-- The outcome of a request to the raffle contract, seen from the chain. -/
def ofOutcome : Outcome α → Attempt α
  | .ok a => .ok a
  | .error (.refused cause) => fail (.refused cause)
  | .error .aborted => .error .aborted

/-- Fails unless the condition holds. -/
def ensure (condition : Bool) (cause : Failure) : Attempt Unit :=
  if condition then .ok () else fail cause

/-- Marks a failure as nested. -/
def nest : Attempt α → Attempt α
  | .error (.failed cause _) => .error (.failed cause true)
  | other => other

/-- Aborts instead of failing. -/
def orAbort : Attempt α → Attempt α
  | .ok a => .ok a
  | .error _ => .error .aborted

end Attempt

namespace Trouble

/-- The innermost cause of a failure; an abort has none. -/
def rootText? : Trouble → Option String
  | .failed cause _ => cause.rootText?
  | .aborted => none

/-- The text with which a failure that is not nested was first reported. -/
def framedText? : Trouble → Option String
  | .failed cause false => cause.framedText?
  | _ => none

end Trouble

end Tombola.Chain
