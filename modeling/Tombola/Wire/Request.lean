import Tombola.Request
import Tombola.Wire.Values

/-!
# Requests on the wire

Each request is an object with one field, the name of the request. Settings that are left out are
read as absent and written as null.
-/

namespace Tombola.Wire

open Codec (text uint32 uint64 flag list optional)

/-- The settings that the contract is set up with. -/
def setup : Codec SetupRequest :=
  (Codec.record <|
    SetupRequest.mk <$> field "name" SetupRequest.name text
      <*> field "nois_proxy_addr" SetupRequest.oracle text
      <*> field "nois_proxy_coin" SetupRequest.oracleFee coin
      <*> field "owner" SetupRequest.owner (optional text)
      <*> field "fee_addr" SetupRequest.treasury (optional text)
      <*> field "minimum_raffle_duration" SetupRequest.minDuration (optional uint64)
      <*> field "minimum_raffle_timeout" SetupRequest.minTimeout (optional uint64)
      <*> field "max_ticket_number" SetupRequest.maxTickets (optional uint32)
      <*> field "raffle_fee" SetupRequest.cut decimal
      <*> field "creation_coins" SetupRequest.creationFees (optional (list coin))).named
    "InstantiateMsg"

/-- The options that an owner asks for. -/
def optionsRequest : Codec OptionsRequest :=
  (Codec.record <|
    OptionsRequest.mk
      <$> field "raffle_start_timestamp" OptionsRequest.start (optional timestamp)
      <*> field "raffle_duration" OptionsRequest.duration (optional uint64)
      <*> field "raffle_timeout" OptionsRequest.timeout (optional uint64)
      <*> field "comment" OptionsRequest.comment (optional text)
      <*> field "max_ticket_number" OptionsRequest.maxTickets (optional uint32)
      <*> field "max_ticket_per_address" OptionsRequest.maxPerBuyer (optional uint32)
      <*> field "raffle_preview" OptionsRequest.preview (optional uint32)).named
    "RaffleOptionsMsg"

/-- A new raffle. -/
def createRequest : Codec CreateRequest :=
  Codec.record <|
    CreateRequest.mk <$> field "owner" CreateRequest.owner (optional text)
      <*> field "assets" CreateRequest.prizes (list asset)
      <*> field "raffle_options" CreateRequest.options optionsRequest
      <*> field "raffle_ticket_price" CreateRequest.price asset
      <*> field "autocycle" CreateRequest.autocycle (optional flag)

/-- Settings of the contract to change. -/
def configRequest : Codec ConfigRequest :=
  Codec.record <|
    ConfigRequest.mk <$> field "name" ConfigRequest.name (optional text)
      <*> field "owner" ConfigRequest.owner (optional text)
      <*> field "fee_addr" ConfigRequest.treasury (optional text)
      <*> field "minimum_raffle_duration" ConfigRequest.minDuration (optional uint64)
      <*> field "minimum_raffle_timeout" ConfigRequest.minTimeout (optional uint64)
      <*> field "max_tickets_per_raffle" ConfigRequest.maxTickets (optional uint32)
      <*> field "raffle_fee" ConfigRequest.cut (optional decimal)
      <*> field "nois_proxy_addr" ConfigRequest.oracle (optional text)
      <*> field "nois_proxy_coin" ConfigRequest.oracleFee (optional coin)
      <*> field "creation_coins" ConfigRequest.creationFees (optional (list coin))

/-- The price and the options of a raffle to change. -/
def modifyRequest : Codec ModifyRequest :=
  Codec.record <|
    ModifyRequest.mk <$> field "raffle_id" ModifyRequest.raffle uint64
      <*> field "raffle_ticket_price" ModifyRequest.price (optional asset)
      <*> field "raffle_options" ModifyRequest.options optionsRequest

/-- Tickets to buy. -/
def buyRequest : Codec BuyRequest :=
  Codec.record <|
    BuyRequest.mk <$> field "raffle_id" BuyRequest.raffle uint64
      <*> field "ticket_count" BuyRequest.count uint32
      <*> field "sent_assets" BuyRequest.payment asset

/-- A collection's notice of a token, with a request as its payload. -/
def depositRequest : Codec DepositRequest :=
  (Codec.record <|
    DepositRequest.mk <$> field "sender" DepositRequest.sender text
      <*> field "token_id" DepositRequest.token text
      <*> field "msg" DepositRequest.payload base64Bytes).named
    "Cw721ReceiveMsg"

/-- The oracle's answer to a job. -/
def randomnessAnswer : Codec RandomnessAnswer :=
  (Codec.record <|
    RandomnessAnswer.mk <$> field "job_id" RandomnessAnswer.job text
      <*> field "published" RandomnessAnswer.published timestamp.remarked
      <*> field "randomness" RandomnessAnswer.randomness hexBytes.remarked).named
    "NoisCallback"

/-- A record with the id of a raffle and nothing else. -/
def raffleOnly : Codec RaffleId := Codec.record (field "raffle_id" id uint64)

/-- A record with the position of a lock and nothing else. -/
def lockOnly : Codec Bool := Codec.record (field "lock" id flag)

/-- A record with the oracle's answer and nothing else. -/
def answerOnly : Codec RandomnessAnswer := Codec.record (field "callback" id randomnessAnswer)

/-- A request of a caller, by its name. A notice of a token has two names to be read by. -/
def request : Codec Request :=
  (Codec.variants [
    case "create_raffle" createRequest Request.create fun | .create r => some r | _ => none,
    case "cancel_raffle" raffleOnly Request.cancel fun | .cancel id => some id | _ => none,
    case "update_config" configRequest Request.updateConfig
      fun | .updateConfig r => some r | _ => none,
    case "modify_raffle" modifyRequest Request.modify fun | .modify r => some r | _ => none,
    case "buy_ticket" buyRequest Request.buy fun | .buy r => some r | _ => none,
    case "receive_nft" depositRequest Request.deposit (fun | .deposit r => some r | _ => none)
      (some "receive"),
    case "determine_winner" raffleOnly Request.determineWinner
      fun | .determineWinner id => some id | _ => none,
    case "nois_receive" answerOnly Request.receiveRandomness
      fun | .receiveRandomness a => some a | _ => none,
    case "claim_raffle" raffleOnly Request.claim fun | .claim id => some id | _ => none,
    case "toggle_lock" lockOnly Request.setLock fun | .setLock l => some l | _ => none,
    case "update_randomness" raffleOnly Request.updateRandomness
      fun | .updateRandomness id => some id | _ => none]).named
    "ExecuteMsg"

/-- An order of the chain's governance. -/
def governanceRequest : Codec GovernanceRequest :=
  (Codec.variants [
    case "toggle_lock" lockOnly GovernanceRequest.setLock fun | .setLock l => some l]).named
    "SudoMsg"

/-- The request to bring the store to the current version holds nothing. -/
def migration : Codec Unit := (Codec.record (pure ())).named "MigrateMsg"

/-- The filters of a list of raffles. -/
def filters : Codec Filters :=
  (Codec.record <|
    Filters.mk <$> field "states" Filters.phases (optional (list text))
      <*> field "owner" Filters.owner (optional text)
      <*> field "ticket_depositor" Filters.buyer (optional text)
      <*> field "contains_token" Filters.prizeKey (optional text)).named
    "QueryFilters"

/-- A page of the list of raffles, after one of them. -/
def rafflesPage : Codec RafflesPage :=
  Codec.record <|
    RafflesPage.mk <$> field "start_after" RafflesPage.after (optional uint64)
      <*> field "limit" RafflesPage.limit (optional uint32)
      <*> field "filters" RafflesPage.filters (optional filters)

/-- A page of the list of tickets, after one of them. -/
def ticketsPage : Codec TicketsPage :=
  Codec.record <|
    TicketsPage.mk <$> field "raffle_id" TicketsPage.raffle uint64
      <*> field "start_after" TicketsPage.after (optional uint32)
      <*> field "limit" TicketsPage.limit (optional uint32)

/-- A buyer and a raffle. -/
def ticketCountOf : Codec (Address × RaffleId) :=
  Codec.record <| Prod.mk <$> field "owner" Prod.fst text <*> field "raffle_id" Prod.snd uint64

/-- A question, by its name. -/
def question : Codec Question :=
  (Codec.variants [
    case "config" (Codec.record (pure ())) (fun _ => Question.config)
      fun | .config => some () | _ => none,
    case "raffle_info" raffleOnly Question.raffle fun | .raffle id => some id | _ => none,
    case "all_raffles" rafflesPage Question.raffles fun | .raffles p => some p | _ => none,
    case "all_tickets" ticketsPage Question.tickets fun | .tickets p => some p | _ => none,
    case "ticket_count" ticketCountOf (fun a => Question.ticketCount a.1 a.2)
      fun | .ticketCount buyer id => some (buyer, id) | _ => none]).named
    "QueryMsg"

end Tombola.Wire
