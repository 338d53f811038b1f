import Tombola.Chain.Failure
import Tombola.Purse

/-!
# The bank

What every account holds. A transfer names its coins in a list, and coins of amount zero in it are
passed over.
-/

namespace Tombola.Chain

/-- The purses of all accounts; an account without an entry holds nothing. -/
abbrev Bank := Table Address Purse

namespace Bank

/-- What an account holds. -/
def purse (b : Bank) (account : Address) : Purse := (b.get? account).getD .empty

/-- Takes a coin from a purse that holds that much. -/
def takeCoin (p : Purse) (c : Coin) : Attempt Purse :=
  match p.sub? c with
  | some p => .ok p
  | none => Attempt.fail (.bank (.tooLow (p.amountOf c.denom) c.amount))

/-- Adds a coin to a purse. It aborts where the sum is no amount. -/
def addCoin (p : Purse) (c : Coin) : Attempt Purse :=
  match p.add? c with
  | some p => .ok p
  | none => .error .aborted

/-- Takes coins from an account, one after the other. -/
def debit (b : Bank) (account : Address) (coins : List Coin) : Attempt Bank := do
  let p ← coins.foldlM takeCoin (b.purse account)
  pure (b.insert account p)

/-- Gives coins to an account, one after the other. -/
def credit (b : Bank) (account : Address) (coins : List Coin) : Attempt Bank := do
  let p ← coins.foldlM addCoin (b.purse account)
  pure (b.insert account p)

/-- The coins above zero, of which there has to be one. -/
def movable (coins : List Coin) : Attempt (List Coin) := do
  let coins := coins.filter fun c => !c.amount.isZero
  Attempt.ensure (!coins.isEmpty) (.bank .nothingToMove)
  pure coins

/-- Brings coins into being. -/
def mint (b : Bank) (account : Address) (coins : List Coin) : Attempt Bank := do
  b.credit account (← movable coins)

/-- Moves the coins above zero, of which there has to be one, from one account to another. -/
def transfer (b : Bank) (sender recipient : Address) (coins : List Coin) : Attempt Bank := do
  let coins ← movable coins
  let b ← b.debit sender coins
  b.credit recipient coins

/-- Moves the coins that come with a call; there may be none. -/
def attach (b : Bank) (sender recipient : Address) (coins : List Coin) : Attempt Bank :=
  if coins.isEmpty then pure b else b.transfer sender recipient coins

end Bank

end Tombola.Chain
