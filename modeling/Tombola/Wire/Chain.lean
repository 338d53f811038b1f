import Tombola.Chain.Basic
import Tombola.Wire.Message
import Tombola.Wire.Request

/-!
# Packets and events on the wire
-/

namespace Tombola.Wire

open Codec (text uint64 list optional)
open Tombola.Chain (CollectionRequest OracleRequest Packet Party Event)

/-- An object whose fields do not matter. -/
def anyRecord : Codec Unit := Codec.openRecord (pure ())

/-- A new token; further data about it is not kept. -/
def mintRequest : Codec (TokenId × Address) :=
  Codec.record <|
    (fun token owner _ _ => (token, owner)) <$> field "token_id" Prod.fst text
      <*> field "owner" Prod.snd text
      <*> field "token_uri" (fun _ => none) (optional text)
      <*> field "extension" (fun _ => none) (optional anyRecord)

/-- A token to send to a contract, with the payload that tells the contract what for. -/
def sendRequest : Codec (Address × TokenId × Bytes) :=
  Codec.record <|
    (fun contract token payload => (contract, token, payload))
      <$> field "contract" (·.1) text <*> field "token_id" (·.2.1) text
      <*> field "msg" (·.2.2) base64Bytes

/-- A token to end. -/
def burnRequest : Codec TokenId := Codec.record (field "token_id" id text)

/-- A spender to approve for a token. -/
def approveRequest : Codec (Address × TokenId × Option Expiration) :=
  Codec.record <|
    (fun spender token expires => (spender, token, expires))
      <$> field "spender" (·.1) text <*> field "token_id" (·.2.1) text
      <*> field "expires" (·.2.2) (optional expiration)

/-- A spender whose approval for a token ends. -/
def revokeRequest : Codec (Address × TokenId) :=
  Codec.record <| Prod.mk <$> field "spender" Prod.fst text <*> field "token_id" Prod.snd text

/-- An operator for all tokens of the sender. -/
def approveAllRequest : Codec (Address × Option Expiration) :=
  Codec.record <|
    Prod.mk <$> field "operator" Prod.fst text <*> field "expires" Prod.snd (optional expiration)

/-- An operator whose permission ends. -/
def revokeAllRequest : Codec Address := Codec.record (field "operator" id text)

/-- A request to the token collection. -/
def collectionRequest : Codec CollectionRequest :=
  Codec.variants [
    case "mint" mintRequest (fun a => CollectionRequest.mint a.1 a.2)
      fun | .mint token owner => some (token, owner) | _ => none,
    case "transfer_nft" transferTokenFields (fun a => CollectionRequest.transfer a.1 a.2)
      fun | .transfer recipient token => some (recipient, token) | _ => none,
    case "send_nft" sendRequest (fun a => CollectionRequest.send a.1 a.2.1 a.2.2)
      fun | .send contract token payload => some (contract, token, payload) | _ => none,
    case "burn" burnRequest CollectionRequest.burn
      fun | .burn token => some token | _ => none,
    case "approve" approveRequest (fun a => CollectionRequest.approve a.1 a.2.1 a.2.2)
      fun | .approve spender token expires => some (spender, token, expires) | _ => none,
    case "revoke" revokeRequest (fun a => CollectionRequest.revoke a.1 a.2)
      fun | .revoke spender token => some (spender, token) | _ => none,
    case "approve_all" approveAllRequest (fun a => CollectionRequest.approveAll a.1 a.2)
      fun | .approveAll operator expires => some (operator, expires) | _ => none,
    case "revoke_all" revokeAllRequest CollectionRequest.revokeAll
      fun | .revokeAll operator => some operator | _ => none]

/-- A request to the oracle. -/
def oracleRequest : Codec OracleRequest :=
  Codec.variants [
    case "get_next_randomness" jobOnly OracleRequest.next
      fun | .next job => some job | _ => none,
    case "get_randomness_after" randomnessAfterFields (fun a => OracleRequest.after a.1 a.2)
      fun | .after time job => some (time, job) | _ => none]

/-- What a contract makes of a message. -/
def packet (party : Party) (message : Json) : Packet :=
  let read? : Option Packet := match party with
    | .raffle => (request.read? message).map .raffle
    | .collection => (collectionRequest.read? message).map .collection
    | .oracle => (oracleRequest.read? message).map .oracle
  read?.getD .unreadable

/-- The kind of an event with its attributes. -/
def eventJson (e : Event) : Json :=
  let attributes (l : List (String × String)) : Json :=
    .list (l.map fun a => .list [.text a.1, .text a.2])
  match e with
  | .contract address as =>
    .list [.text "wasm",
      attributes (("_contract_address", address) :: as.map fun a => (a.key, a.value))]
  | .transfer recipient sender coins =>
    .list [.text "transfer", attributes [("recipient", recipient), ("sender", sender),
      ("amount", ",".intercalate (coins.map Coin.text))]]

end Tombola.Wire
