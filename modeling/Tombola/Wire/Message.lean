import Tombola.Message
import Tombola.Ownership
import Tombola.Wire.Values

/-!
# Messages on the wire
-/

namespace Tombola.Wire

open Codec (text uint64 list)

/-- A record with the name of a job and nothing else. -/
def jobOnly : Codec JobId := Codec.record (field "job_id" id text)

/-- The recipient of a token and the token. -/
def transferTokenFields : Codec (Address × TokenId) :=
  Codec.record <| Prod.mk <$> field "recipient" Prod.fst text <*> field "token_id" Prod.snd text

/-- The time that the oracle is to wait for, and the job. -/
def randomnessAfterFields : Codec (Timestamp × JobId) :=
  Codec.record <| Prod.mk <$> field "after" Prod.fst timestamp <*> field "job_id" Prod.snd text

/-- A call of a collection or of the oracle. -/
def call : Codec Call :=
  Codec.variants [
    case "transfer_nft" transferTokenFields (fun a => Call.transferToken a.1 a.2)
      fun | .transferToken recipient token => some (recipient, token) | _ => none,
    case "get_next_randomness" jobOnly Call.nextRandomness
      fun | .nextRandomness job => some job | _ => none,
    case "get_randomness_after" randomnessAfterFields (fun a => Call.randomnessAfter a.1 a.2)
      fun | .randomnessAfter after job => some (after, job) | _ => none]

/-- A message; the text of a call goes along as bytes. -/
def messageJson : Message → Json
  | .send recipient coins =>
    .object [("bank", .object [("send", .object [("to_address", .text recipient),
      ("amount", (list coin).write coins)])])]
  | .call contract c funds =>
    .object [("wasm", .object [("execute", .object [("contract_addr", .text contract),
      ("msg", base64Bytes.write (Text.utf8 (call.encode c))),
      ("funds", (list coin).write funds)])])]

/-- A message of a response, to whose outcome the contract does not listen. -/
def submessageJson (m : Message) : Json :=
  .object [("id", .ofNat 0), ("msg", messageJson m), ("gas_limit", .null),
    ("reply_on", .text "never")]

/-- An attribute with its key and its value. -/
def attributeJson (a : Attribute) : Json :=
  .object [("key", .text a.key), ("value", .text a.value)]

/-- A response; the contract sets neither events of its own nor data. -/
def responseJson (r : Response) : Json :=
  .object [("messages", .list (r.messages.map submessageJson)),
    ("attributes", .list (r.attributes.map attributeJson)), ("events", .list []), ("data", .null)]

/-- How a collection is asked for the owner of a token. -/
def ownerQuestion (token : TokenId) : Json :=
  .object [("owner_of", .object [("token_id", .text token), ("include_expired", .null)])]

/-- When a permission ends. -/
def expiration : Codec Expiration :=
  (Codec.variants [
    case "at_height" uint64 Expiration.atHeight fun | .atHeight h => some h | _ => none,
    case "at_time" timestamp Expiration.atTime fun | .atTime t => some t | _ => none,
    case "never" (Codec.record (pure ())) (fun _ => Expiration.never)
      fun | .never => some () | _ => none]).named "Expiration"

/-- A spender, and until when it may move a token. -/
def approval : Codec Approval :=
  (Codec.record <|
    Approval.mk <$> field "spender" Approval.spender text
      <*> field "expires" Approval.expires expiration).named "Approval"

/-- What a collection answers about a token. -/
def ownerReport : Codec OwnerReport :=
  (Codec.record <|
    OwnerReport.mk <$> field "owner" OwnerReport.owner text
      <*> field "approvals" OwnerReport.approvals (list approval)).named "OwnerOfResponse"

end Tombola.Wire
