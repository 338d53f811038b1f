import Tombola.Address
import Tombola.Coin

/-!
# Assets

A prize or a ticket price: a token of a collection, under one of two token standards, or a coin.
-/

namespace Tombola

/-- The name of a token within its collection. -/
abbrev TokenId := String

/-- A token, by its collection and its name there. -/
structure Token where
  collection : Address
  id : TokenId
  deriving DecidableEq

/-- What can be a prize: a token under one of the two standards, or a coin. -/
inductive Asset where
  | cw721 (token : Token)
  | sg721 (token : Token)
  | coin (coin : Coin)
  deriving DecidableEq

namespace Asset

/-- The collection of a token, the denomination of a coin. -/
def key : Asset → String
  | .cw721 t => t.collection
  | .sg721 t => t.collection
  | .coin c => c.denom

/-- The text by which prizes are told apart: standard, collection and token, or the denomination
alone. -/
def identity : Asset → String
  | .cw721 t => "cw721:" ++ t.collection ++ ":" ++ t.id
  | .sg721 t => "sg721:" ++ t.collection ++ ":" ++ t.id
  | .coin c => "coin:" ++ c.denom

/-- No two of the assets have the same identity. -/
def allDistinct (assets : List Asset) : Bool := decide (assets.map identity).Nodup

/-- A coin of amount zero. -/
def isEmptyCoin : Asset → Bool
  | .coin c => c.amount.isZero
  | _ => false

/-- The token, when the asset is one. -/
def token? : Asset → Option Token
  | .cw721 t => some t
  | .sg721 t => some t
  | .coin _ => none

end Asset

end Tombola
