import Tombola.Config
import Tombola.Job
import Tombola.Ledger
import Tombola.Wire.Values

/-!
# What is kept, on the wire
-/

namespace Tombola.Wire

open Codec (text uint32 uint64 flag list optional)

/-- A phase by its name. -/
def phase : Codec Phase := (Codec.names Phase.all Phase.text).named "RaffleState"

/-- The two locks. -/
def locks : Codec Locks :=
  (Codec.record <|
    Locks.mk <$> field "lock" Locks.owner flag <*> field "sudo_lock" Locks.governance flag).named
    "Locks"

/-- The configuration as it is kept. -/
def config : Codec Config :=
  (Codec.record <|
    Config.mk <$> field "name" Config.name text
      <*> field "owner" Config.owner address
      <*> field "fee_addr" Config.treasury address
      <*> field "last_raffle_id" Config.lastRaffle (optional uint64)
      <*> field "minimum_raffle_duration" Config.minDuration uint64
      <*> field "minimum_raffle_timeout" Config.minTimeout uint64
      <*> field "max_tickets_per_raffle" Config.maxTickets (optional uint32)
      <*> field "raffle_fee" Config.cut decimal
      <*> field "locks" Config.locks locks
      <*> field "nois_proxy_addr" Config.oracle address
      <*> field "nois_proxy_coin" Config.oracleFee coin
      <*> field "creation_coins" Config.creationFees (list coin)).named
    "Config"

/-- The options of a raffle as they are kept. -/
def raffleOptions : Codec RaffleOptions :=
  (Codec.record <|
    RaffleOptions.mk <$> field "raffle_start_timestamp" RaffleOptions.start timestamp
      <*> field "raffle_duration" RaffleOptions.duration uint64
      <*> field "raffle_timeout" RaffleOptions.timeout uint64
      <*> field "comment" RaffleOptions.comment (optional text)
      <*> field "max_ticket_number" RaffleOptions.maxTickets (optional uint32)
      <*> field "max_ticket_per_address" RaffleOptions.maxPerBuyer (optional uint32)
      <*> field "raffle_preview" RaffleOptions.preview uint32).named
    "RaffleOptions"

/-- A raffle as it is kept. -/
def raffle : Codec Raffle :=
  (Codec.record <|
    Raffle.mk <$> field "owner" Raffle.owner address
      <*> field "assets" Raffle.prizes (list asset)
      <*> field "raffle_ticket_price" Raffle.price asset
      <*> field "number_of_tickets" Raffle.sold uint32
      <*> field "randomness" Raffle.randomness (optional hexBytes)
      <*> field "winner" Raffle.winner (optional address)
      <*> field "is_cancelled" Raffle.cancelled flag
      <*> field "is_claimed" Raffle.claimed flag
      <*> field "raffle_options" Raffle.options raffleOptions).named
    "RaffleInfo"

/-- A purchase as it is kept. -/
def purchase : Codec Purchase :=
  (Codec.record <|
    Purchase.mk <$> field "buyer" Purchase.buyer address
      <*> field "count" Purchase.count uint32).named
    "TicketPurchase"

/-- A job as it is kept. -/
def job : Codec Job :=
  (Codec.record <|
    Job.mk <$> field "raffle_id" Job.raffle uint64
      <*> field "pending_since" Job.pendingSince timestamp
      <*> field "attempt" Job.attempt uint32).named
    "RandomnessJob"

end Tombola.Wire
