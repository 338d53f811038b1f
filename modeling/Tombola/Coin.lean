import Tombola.Amount

/-!
# Coins

A coin is an amount of one denomination. A denomination is any text.
-/

namespace Tombola

/-- The name of a coin. -/
abbrev Denom := String

/-- An amount of a denomination. -/
structure Coin where
  denom : Denom
  amount : Amount
  deriving DecidableEq

namespace Coin

instance : Inhabited Coin := ⟨⟨"", .zero⟩⟩

/-- The amount and then the denomination, as in `50ustars`. -/
def text (c : Coin) : String := c.amount.text ++ c.denom

/-- How one coin appears in a list of coins in a message. -/
def listedText (c : Coin) : String :=
  "Coin \x7b " ++ c.amount.text ++ " \"" ++ c.denom ++ "\" \x7d"

/-- How coins appear in a message. -/
def listText (cs : List Coin) : String :=
  "[" ++ ", ".intercalate (cs.map listedText) ++ "]"

end Coin

end Tombola
