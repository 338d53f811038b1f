import Tombola.Purse
import Tombola.Refusal

/-!
# Payments

Whether the coins that a caller attaches are what is asked for. Funds are looked at as the list that
was attached, or as a purse in which no denomination has two coins.
-/

namespace Tombola.Payment

/-- The coins agree in denomination and amount. -/
def sameCoin (a b : Coin) : Bool := a.denom == b.denom && a.amount == b.amount

/-- Exactly the expected coin is attached, or nothing when the expected amount is zero. -/
def exactly (funds : List Coin) (expected : Coin) : Outcome Coin :=
  match funds with
  | [] =>
    if expected.amount.isZero then pure expected
    else Outcome.refuse (.payment (.notOneCoin []))
  | [sent] =>
    if sameCoin sent expected then pure sent
    else Outcome.refuse (.payment (.otherCoin expected [sent]))
  | sent => Outcome.refuse (.payment (.notOneCoin sent))

/-- The purse of attached funds, which may have no denomination twice. -/
def purseOf (funds : List Coin) : Outcome Purse :=
  Outcome.orRefuse .repeatedDenom (Purse.ofCoins? funds)

/-- Takes a coin out of a purse that holds that much. -/
def deduct (purse : Purse) (coin : Coin) : Outcome Purse :=
  Outcome.orRefuse (.payment (.missing coin (purse.amountOf coin.denom))) (purse.sub? coin)

/-- The fee to pay out of a purse: nothing when there are no accepted coins or one of them is free,
otherwise the first that the purse can pay, if there is one. -/
def fee? (purse : Purse) (accepted : List Coin) : Option (Option Coin) :=
  if accepted.isEmpty || accepted.any (·.amount.isZero) then some none
  else (accepted.find? fun c => decide (c.amount ≤ purse.amountOf c.denom)).map some

/-- The fee to pay out of a purse; it is refused when the purse can pay none of those accepted. -/
def selectFee (purse : Purse) (accepted : List Coin) : Outcome (Option Coin) :=
  Outcome.orRefuse (.payment (.noAcceptedFee accepted)) (fee? purse accepted)

/-- The fee that a new raffle is paid for with, which has to be among the coins left in the
purse. -/
def creationFee (purse : Purse) (accepted : List Coin) : Outcome (Option Coin) :=
  Outcome.orRefuse (.insufficientFunds (accepted.head?.getD default)) (fee? purse accepted)

/-- Takes a coin that the caller needs to have attached. -/
def take (purse : Purse) (coin : Coin) : Outcome Purse :=
  Outcome.orRefuse (.insufficientFunds coin) (purse.sub? coin)

/-- What the first coin of a denomination holds. -/
def firstAmount (funds : List Coin) (denom : Denom) : Amount :=
  ((funds.find? fun c => c.denom == denom).map (·.amount)).getD .zero

/-- The oracle's fee is handed on as it is, so exactly that has to be attached. -/
def oracleFee (funds : List Coin) (fee : Coin) : Outcome Unit := do
  Outcome.ensure (fee.amount ≤ firstAmount funds fee.denom) (.insufficientFunds fee)
  match exactly funds fee with
  | .ok _ => pure ()
  | .error _ => Outcome.refuse (.invalidAssets (.oracleFee fee))

end Tombola.Payment
