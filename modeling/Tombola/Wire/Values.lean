import Tombola.Asset
import Tombola.Decimal
import Tombola.Timestamp
import Tombola.Wire.Codec

/-!
# Values on the wire

Amounts, timestamps, fractions and bytes are strings, because numbers of that size are not safe in
every JSON reader. A coin passes over fields it does not know.
-/

namespace Tombola.Wire

open Codec (text uint32 uint64 flag list optional)

/-- An amount, in a string. -/
def amount : Codec Amount := (Codec.ofText Amount.text Amount.read?).named "Uint128"

/-- A fraction, in a string. -/
def decimal : Codec Decimal := (Codec.ofText Decimal.text Decimal.read?).named "Decimal"

/-- Bytes, in a string of hexadecimal digits. -/
def hexBytes : Codec Bytes := (Codec.ofText Text.Hex.write Text.Hex.read?).named "HexBinary"

/-- Bytes, in a string of base64 symbols. -/
def base64Bytes : Codec Bytes := (Codec.ofText Text.Base64.write Text.Base64.read?).named "Binary"

/-- An address that has been checked before. -/
def address : Codec Address := text.named "Addr"

/-- Nanoseconds, in a string. -/
def timestamp : Codec Timestamp :=
  let nanos := Codec.ofText (fun t : Timestamp => toString t.nanos.toNat) fun s =>
    Text.lenient? s.toList >>= Timestamp.ofNanos?
  ((nanos.named "Uint64").remarked).named "Timestamp"

/-- A coin; other fields are passed over. -/
def coin : Codec Coin :=
  (Codec.openRecord <|
    Coin.mk <$> field "denom" Coin.denom text <*> field "amount" Coin.amount amount).named "Coin"

/-- A token, under the name of its standard. -/
def token (typeName : String) : Codec Token :=
  (Codec.record <|
    Token.mk <$> field "address" Token.collection text <*> field "token_id" Token.id text).named
    typeName

/-- An asset, by its kind. -/
def asset : Codec Asset :=
  (Codec.variants [
    case "cw721_coin" (token "Cw721Coin") Asset.cw721 fun | .cw721 t => some t | _ => none,
    case "sg721_token" (token "Sg721Token") Asset.sg721 fun | .sg721 t => some t | _ => none,
    case "coin" coin Asset.coin fun | .coin c => some c | _ => none]).named "AssetInfo"

end Tombola.Wire
