import Tombola.Chain.Bank
import Tombola.Chain.Collection
import Tombola.Chain.Oracle
import Tombola.Contract

/-!
# The chain

The state of the chain: its block, the bank and the three contracts. The contracts see the chain
through the time and through the owners that collections tell.
-/

namespace Tombola

/-- All that a transaction can read and change. -/
structure Chain where
  block : Chain.Block
  bank : Chain.Bank
  raffle : Store
  collection : Chain.Collection
  oracle : Chain.Oracle

namespace Chain

/-- Why a contract that knows other questions does not tell an owner. -/
def unknownQuestion (typeName expected : String) : String :=
  "Error parsing into type " ++ typeName ++ ": unknown variant `owner_of`, expected " ++ expected

/-- The questions that the raffle contract names when it is asked another. -/
def raffleQuestions : String :=
  "one of `config`, `raffle_info`, `all_raffles`, `all_tickets`, `ticket_count`"

/-- Who owns a token, as the contract at an address tells. -/
def ownerOf (c : Chain) (contract : Address) (token : TokenId) : Except Refusal Address :=
  let reject (reason : String) : Except Refusal Address :=
    .error (.lookup (.rejected reason))
  match contract.check with
  | .error flaw => reject (Refusal.message (.invalidAddress flaw))
  | .ok address =>
    match Party.at? address with
    | some .collection =>
      match c.collection.tokens.get? token with
      | some title => .ok title.owner
      | none => reject (CollectionFlaw.message (.unknownToken token))
    | some .oracle =>
      reject (unknownQuestion "test_suite::common_setup::nois_proxy::QueryMsg" "`pending_jobs`")
    | some .raffle => reject (unknownQuestion "raffles::msg::QueryMsg" raffleQuestions)
    | none => reject ((Failure.rootText? (.noContract address)).getD "")

/-- The chain as the raffle contract sees it. -/
def surroundings (c : Chain) : Surroundings where
  now := c.block.time
  self := Party.raffle.address
  ownerOf := c.ownerOf

end Chain

end Tombola
