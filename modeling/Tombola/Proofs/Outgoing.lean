import Tombola.Proofs.WellFormed

/-!
# Nothing worthless is sent

The bank of the chain refuses a zero coin, and it refuses to send nothing; with such a message a
whole request would fail. No response has one, as long as no zero coin is attached: a kept prize or
price is not zero and neither is a kept number of bought tickets, and a creation fee, a fee of the
oracle or a part of the sales that is zero is left out.
-/

namespace Tombola

open Contract

/-- The bank takes the message: none of its coins is zero, and a send has coins. -/
structure Message.Bankable (m : Message) : Prop where
  worth : ∀ c ∈ m.coins, c.amount.isZero = false
  coins : ∀ receiver coins, m = .send receiver coins → coins ≠ []

variable {clock : Clock} {now : Timestamp} {s s' : Store} {t : Turn} {id : RaffleId} {r : Raffle}
  {config : Config} {receiver : Address} {response : Response} {m : Message}

namespace Message.Bankable

theorem send {coins : List Coin} (h : ∀ c ∈ coins, c.amount.isZero = false) (hcoins : coins ≠ []) :
    (Message.send receiver coins).Bankable where
  worth := h
  coins := by
    rintro _ _ ⟨rfl, rfl⟩
    exact hcoins

theorem send_one {c : Coin} (h : c.amount.isZero = false) :
    (Message.send receiver [c]).Bankable := by
  refine .send ?_ (List.cons_ne_nil c [])
  intro d hd
  rw [List.mem_singleton.mp hd]
  exact h

theorem call {contract : Address} {call : Call} {funds : List Coin}
    (h : ∀ c ∈ funds, c.amount.isZero = false) : (Message.call contract call funds).Bankable where
  worth := h
  coins := nofun

end Message.Bankable

namespace Contract

theorem bankable_transfer {prize : Asset} (h : prize.isEmptyCoin = false) :
    (transfer receiver prize).Bankable := by
  cases prize with
  | coin c => exact .send_one h
  | cw721 _ => exact .call nofun
  | sg721 _ => exact .call nofun

/-- Prizes that have been checked are handed out. -/
theorem bankable_prizes (h : r.Checked) : ∀ m ∈ prizeMessages r receiver, m.Bankable := by
  intro m hm
  obtain ⟨prize, hprize, rfl⟩ := List.mem_map.mp hm
  exact bankable_transfer (h.worthwhile prize hprize)

/-- A request for randomness brings the oracle's fee, unless that is zero. -/
theorem bankable_request (s : Store) (now : Timestamp) (config : Config) (id : RaffleId)
    (attempt : UInt32) (after : Option Timestamp) :
    (requestRandomness s now config id attempt after).2.2.Bankable := by
  apply Message.Bankable.call
  intro c hc
  unfold oracleFunds at hc
  split at hc
  · cases hc
  · next hfee =>
    rw [List.mem_singleton.mp hc]
    exact eq_false_of_ne_true hfee

theorem bankable_collect {env : Surroundings} {caller : Caller} {request : CreateRequest}
    {purse : Purse} {messages : List Message}
    (hprizes : ∀ prize ∈ request.prizes, prize.isEmptyCoin = false)
    (h : collect env config caller request purse = .ok messages) : ∀ m ∈ messages, m.Bankable := by
  intro m hm
  rcases collect_messages h m hm with ⟨prize, hprize, _, rfl⟩ | ⟨fee, hfee, rfl⟩
  · exact bankable_transfer (hprizes prize hprize)
  · exact .send_one hfee

/-- A new raffle of checked prizes takes the tokens, pays the creation fee and asks the oracle. -/
theorem bankable_create {env : Surroundings} {caller : Caller} {request : CreateRequest}
    (h : create s env caller request = .ok (s', response)) :
    ∀ m ∈ response.messages, m.Bankable := by
  obtain ⟨config, _, messages, _, id, _, entered, hnew, _, hcollect, _, hrest⟩ := create_eq_ok h
  have hcollected := bankable_collect hnew.prizes.2.2 hcollect
  rcases hrest with ⟨_, _, hmessages⟩ | ⟨closing, _, _, hmessages⟩
  · rw [hmessages]
    exact hcollected
  · rw [hmessages, List.forall_mem_append]
    refine ⟨hcollected, List.forall_mem_singleton.mpr ?_⟩
    exact bankable_request entered env.now config id 0 (some closing)

/-- Tickets cost something. -/
theorem ticketCost_not_zero (h : r.Checked) {count : TicketCount} (hcount : count ≠ 0) {cost : Coin}
    (hcost : ticketCost r count = .ok cost) : cost.amount.isZero = false := by
  obtain ⟨price, hprice, _, hamount⟩ := ticketCost_eq_ok.mp hcost
  have hworth := h.worth_pos hprice
  rw [Coin.worth, if_pos rfl] at hworth
  have hpos : 0 < count.toNat := Nat.pos_of_ne_zero fun hz => hcount (UInt32.toNat_inj.mp hz)
  have hcost : cost.amount.val ≠ 0 := hamount ▸ (Nat.mul_pos hworth hpos).ne'
  exact eq_false_of_ne_true fun hz => hcost (Amount.isZero_iff.mp hz)

/-- Every purchase that is paid back was of tickets that cost something. -/
theorem bankable_refunds (hs : Reachable clock now s) (h : r.Checked) {refunds : List Message}
    (hrefunds : refundMessages s id r = .ok refunds) : ∀ m ∈ refunds, m.Bankable := by
  intro m hm
  obtain ⟨p, hp, refund, hcost, rfl⟩ := refund_of_mem hrefunds hm
  exact .send_one (ticketCost_not_zero h (hs.count_ne_zero hp) hcost)

theorem bankable_proceeds {proceeds : List Message}
    (h : proceedsMessages config r = .ok proceeds) : ∀ m ∈ proceeds, m.Bankable := by
  intro m hm
  obtain ⟨part, hpart, rfl | rfl⟩ := proceeds_of_mem h hm
  · exact .send_one hpart
  · exact .send_one hpart

/-- Funds that go back are sent on as they are. -/
theorem bankable_returned {funds : List Coin} (h : ∀ c ∈ funds, c.amount.isZero = false)
    (hm : m ∈ if funds.isEmpty then [] else [Message.send receiver funds]) : m.Bankable := by
  split at hm
  · cases hm
  · next hfunds =>
    rw [List.mem_singleton.mp hm]
    exact .send h fun hnil => hfunds (List.isEmpty_iff.mpr hnil)

end Contract

/-- Whatever the clock does, a turn that goes through and has no zero coin attached sends none:
every message carries only coins that are not zero, and every send has a coin. -/
theorem no_zero_coin_sent (h : Reachable clock now s)
    (hfunds : ∀ c ∈ t.funds, c.amount.isZero = false) (hout : t.outcome s = .ok (s', response)) :
    ∀ m ∈ response.messages, m.Bankable := by
  cases hsilent : t.silent with
  | true =>
      rw [Turn.messages_of_silent hsilent hout]
      exact nofun
  | false =>
      cases t with
      | execute env caller request =>
          cases request with
          | create request => exact bankable_create hout
          | cancel id =>
              obtain ⟨r, refunds, hcancel, hrefunds, hmessages⟩ := cancel_eq_ok hout
              have hchecked := h.checked hcancel.kept
              rw [hmessages, List.forall_mem_append]
              exact ⟨bankable_prizes hchecked, bankable_refunds h hchecked hrefunds⟩
          | claim id =>
              obtain ⟨config, r, proceeds, hclaim, _, hproceeds, hmessages⟩ := claim_eq_ok hout
              rw [hmessages, List.forall_mem_append]
              exact ⟨bankable_prizes (h.checked hclaim.kept), bankable_proceeds hproceeds⟩
          | determineWinner id =>
              rcases determineWinner_eq_ok hout with ⟨_, hmessages⟩ | ⟨config, _, _, _, hmessages⟩
              · rw [hmessages]
                exact fun m hm => bankable_returned hfunds hm
              · rw [hmessages, List.forall_mem_singleton]
                exact bankable_request s env.now config id 0 none
          | updateRandomness id =>
              obtain ⟨config, _, attempt, _, _, _, hmessages⟩ := updateRandomness_eq_ok hout
              rw [hmessages, List.forall_mem_singleton]
              exact bankable_request s env.now config id attempt none
          | _ => cases hsilent
      | govern _ _ => cases hsilent
      | migrate _ => cases hsilent

/-- The claim of the small run sends the prize to the buyer and eight coins to the owner. -/
theorem claim_of_sample_sends : ∃ response,
    Sample.payout.outcome Sample.drawn = .ok (Sample.paid, response) ∧
    response.messages = [.send "buyer" [Sample.coin 7 "uprize"],
      .send "owner" [Sample.coin 8 "ustars"]] ∧
    ∀ m ∈ response.messages, m.Bankable := by
  obtain ⟨response, hclaim⟩ : ∃ response, Sample.payout.outcome Sample.drawn =
      .ok (Sample.paid, response) := Turn.outcome_of_isSome (by decide)
  have hfunds : ∀ c ∈ Sample.payout.funds, c.amount.isZero = false := nofun
  have hmessages : (Sample.payout.response? Sample.drawn).map (·.messages) =
      some [.send "buyer" [Sample.coin 7 "uprize"], .send "owner" [Sample.coin 8 "ustars"]] := by
    decide +kernel
  rw [Turn.response?_of_ok hclaim] at hmessages
  exact ⟨response, hclaim, Option.some.inj hmessages,
    no_zero_coin_sent Sample.drawn_recorded.reachable hfunds hclaim⟩

end Tombola
