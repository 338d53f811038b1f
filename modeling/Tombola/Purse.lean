import Tombola.Coin
import Tombola.Table

/-!
# Purses

A purse holds one positive amount for each denomination in it, in the order of the denominations.
Zero coins leave no trace in a purse.
-/

namespace Tombola

/-- What is held, by denomination. -/
structure Purse where
  coins : Table Denom Amount
  deriving DecidableEq

namespace Purse

/-- A purse without coins. -/
def empty : Purse := ⟨∅⟩

instance : Inhabited Purse := ⟨empty⟩

/-- What the purse holds of a denomination, which may be nothing. -/
def amountOf (p : Purse) (d : Denom) : Amount := (p.coins.get? d).getD .zero

/-- There is no coin in the purse. -/
def isEmpty (p : Purse) : Bool := p.coins.isEmpty

/-- The coins in the purse, in the order of their denominations. -/
def toList (p : Purse) : List Coin := p.coins.entries.map fun e => ⟨e.1, e.2⟩

/-- Sets what the purse holds of a denomination. -/
def put (p : Purse) (d : Denom) (a : Amount) : Purse :=
  if a.isZero then ⟨p.coins.erase d⟩ else ⟨p.coins.insert d a⟩

/-- After a write the purse holds the written amount of its denomination and the same of others. -/
theorem amountOf_put (p : Purse) (d d' : Denom) (a : Amount) :
    (p.put d a).amountOf d' = if d' = d then a else p.amountOf d' := by
  rw [put]
  split
  · next h =>
    have ha : a = .zero := by
      obtain ⟨n, hn⟩ := a
      have hz : n = 0 := by simpa [Amount.isZero] using h
      subst hz
      rfl
    by_cases hd : d' = d <;> simp [amountOf, Table.get?_erase, hd, ha]
  · by_cases hd : d' = d <;> simp [amountOf, Table.get?_insert, hd]

/-- Adds a coin of a denomination that is not in the purse yet; a second one is refused. -/
def addNew? (p : Purse) (c : Coin) : Option Purse :=
  if c.amount.isZero then some p
  else if (p.coins.get? c.denom).isSome then none
  else some (p.put c.denom c.amount)

/-- The purse of a list of coins in which no denomination has two coins, zero coins apart. -/
def ofCoins? (cs : List Coin) : Option Purse := cs.foldlM addNew? empty

/-- The purse with a coin added, when the sum is an amount. -/
def add? (p : Purse) (c : Coin) : Option Purse :=
  ((p.amountOf c.denom).add? c.amount).map (p.put c.denom)

/-- The purse with a coin taken out, when it holds that much. -/
def sub? (p : Purse) (c : Coin) : Option Purse :=
  ((p.amountOf c.denom).sub? c.amount).map (p.put c.denom)

end Purse

end Tombola
