import Tombola.Contract.Listing
import Tombola.Wire.State

/-!
# Answers on the wire
-/

namespace Tombola.Wire

open Codec (text uint32 uint64 flag list optional)

/-- The configuration as it is told. -/
def configReport : Codec Contract.ConfigReport :=
  (Codec.record <|
    Contract.ConfigReport.mk <$> field "name" Contract.ConfigReport.name text
      <*> field "owner" Contract.ConfigReport.owner address
      <*> field "fee_addr" Contract.ConfigReport.treasury address
      <*> field "last_raffle_id" Contract.ConfigReport.lastRaffle uint64
      <*> field "minimum_raffle_duration" Contract.ConfigReport.minDuration uint64
      <*> field "minimum_raffle_timeout" Contract.ConfigReport.minTimeout uint64
      <*> field "max_tickets_per_raffle" Contract.ConfigReport.maxTickets (optional uint32)
      <*> field "raffle_fee" Contract.ConfigReport.cut decimal
      <*> field "lock" Contract.ConfigReport.ownerLock flag
      <*> field "sudo_lock" Contract.ConfigReport.governanceLock flag
      <*> field "nois_proxy_addr" Contract.ConfigReport.oracle address
      <*> field "nois_proxy_coin" Contract.ConfigReport.oracleFee coin
      <*> field "creation_coins" Contract.ConfigReport.creationFees (list coin)).named
    "ConfigResponse"

/-- A raffle as it is told. -/
def raffleReport : Codec Contract.RaffleReport :=
  (Codec.record <|
    Contract.RaffleReport.mk <$> field "raffle_id" Contract.RaffleReport.id uint64
      <*> field "raffle_state" Contract.RaffleReport.phase phase
      <*> field "raffle_info" Contract.RaffleReport.raffle (optional raffle)).named
    "RaffleResponse"

/-- A page of the list of raffles. -/
def raffleReports : Codec (List Contract.RaffleReport) :=
  (Codec.record (field "raffles" id (list raffleReport))).named "AllRafflesResponse"

/-- A page of the list of tickets, by their buyers. -/
def buyers : Codec (List Address) := list text

/-- An answer, whose form follows from the question. -/
def answerJson : Contract.Answer → Json
  | .config r => configReport.write r
  | .raffle r => raffleReport.write r
  | .raffles rs => raffleReports.write rs
  | .tickets bs => buyers.write bs
  | .ticketCount n => uint32.write n

end Tombola.Wire
