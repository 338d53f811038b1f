import Tombola.Proofs.Books
import Tombola.Proofs.Value

/-!
# What the contract holds is what it owes

As long as a raffle is neither cancelled nor claimed, the contract holds its coin prizes and the
price of every sold ticket. Each turn that goes through takes in exactly what it sends out and what
it adds to these. Refunds go by the ledger and proceeds by the number of sold tickets, so the books
have to be in order, and no sum of tickets may be clamped.
-/

namespace Tombola

open Contract

/-- What the contract holds of a denomination on account of a raffle. -/
def Raffle.escrow (r : Raffle) (d : Denom) : Nat :=
  if r.cancelled || r.claimed then 0 else Asset.total r.prizes d + r.price.worth d * r.sold.toNat

/-- What the contract holds of a denomination on account of all raffles. -/
def Store.escrow (s : Store) (d : Denom) : Nat := s.raffles.total (·.escrow d)

namespace Step

/-- What comes in with a step that goes through. -/
def attached (step : Step) (d : Denom) : Nat :=
  match step.response with
  | some _ => Coin.total step.turn.funds d
  | none => 0

/-- What leaves with the messages of a step that goes through. -/
def emitted (step : Step) (d : Denom) : Nat :=
  match step.response with
  | some response => Message.total response.messages d
  | none => 0

end Step

/-- What comes in over all steps. -/
def attached (steps : List Step) (d : Denom) : Nat := (steps.map (·.attached d)).sum

/-- What leaves over all steps. -/
def emitted (steps : List Step) (d : Denom) : Nat := (steps.map (·.emitted d)).sum

/-- The turn is one that a caller can be asked to pay for. -/
def Turn.takesPayment : Turn → Bool
  | .execute _ _ (.create _) => true
  | .execute _ _ (.buy _) => true
  | .execute _ _ (.determineWinner _) => true
  | .execute _ _ (.updateRandomness _) => true
  | _ => false

namespace Raffle

variable {r : Raffle} {d : Denom}

theorem escrow_of_unsettled (h : r.Unsettled) :
    r.escrow d = Asset.total r.prizes d + r.price.worth d * r.sold.toNat := by
  rw [escrow, h.1, h.2]
  rfl

theorem escrow_of_cancelled (h : r.cancelled = true) : r.escrow d = 0 := by
  rw [escrow, h]
  rfl

theorem escrow_of_claimed (h : r.claimed = true) : r.escrow d = 0 := by
  rw [escrow, h, Bool.or_true]
  rfl

end Raffle

namespace Store

variable {s s' : Store} {id : RaffleId} {r r' : Raffle} {d : Denom}

theorem escrow_congr (h : s'.raffles = s.raffles) : s'.escrow d = s.escrow d := by
  rw [escrow, h, escrow]

theorem escrow_of_entered (hr : s.raffles.get? id = none)
    (h : s'.raffles = s.raffles.insert id r') :
    s'.escrow d = s.escrow d + r'.escrow d := by
  have hsum := s.raffles.total_insert (·.escrow d) id r'
  rw [hr, ← h] at hsum
  exact hsum

theorem escrow_of_replaced (hr : s.raffles.get? id = some r)
    (h : s'.raffles = s.raffles.insert id r') :
    s'.escrow d + r.escrow d = s.escrow d + r'.escrow d := by
  have hsum := s.raffles.total_insert (·.escrow d) id r'
  rw [hr, ← h] at hsum
  exact hsum

end Store

/-! ## What messages are worth -/

namespace Contract

open Outcome

theorem total_transfers (receiver : Address) (prizes : List Asset) (d : Denom) :
    Message.total (prizes.map (transfer receiver)) d = Asset.total prizes d := by
  induction prizes with
  | nil => rfl
  | cons asset rest ih =>
      rw [List.map_cons, Message.total_cons, Asset.total_cons, ih]
      cases asset <;> simp [transfer, Message.coins, Asset.worth]

theorem total_oracleFunds (fee : Coin) (d : Denom) :
    Coin.total (oracleFunds fee) d = fee.worth d := by
  unfold oracleFunds
  split
  · next hz => rw [Coin.worth_of_isZero hz, Coin.total_nil]
  · rw [Coin.total_cons, Coin.total_nil, Nat.add_zero]

theorem total_returned (receiver : Address) (funds : List Coin) (d : Denom) :
    Message.total (if funds.isEmpty then [] else [.send receiver funds]) d =
      Coin.total funds d := by
  cases funds <;> simp [Message.coins]

/-- What tickets cost together is that many times the price. -/
theorem worth_ticketCost {r : Raffle} {count : TicketCount} {cost : Coin}
    (h : ticketCost r count = .ok cost) (d : Denom) :
    cost.worth d = r.price.worth d * count.toNat := by
  obtain ⟨price, hprice, hdenom, hamount⟩ := ticketCost_eq_ok.mp h
  rw [hprice]
  exact Coin.worth_of_times hdenom hamount d

/-- One coin that pays for tickets is worth that many times the price. -/
theorem total_payment {funds : List Coin} {price : Coin} {amount : Amount} {count : Nat}
    (hfunds : funds = [⟨price.denom, amount⟩]) (hamount : amount.val = price.amount.val * count)
    (d : Denom) : Coin.total funds d = price.worth d * count := by
  rw [hfunds, Coin.total_cons, Coin.total_nil, Nat.add_zero]
  apply Coin.worth_of_times
  · rfl
  · exact hamount

theorem total_refunds {r : Raffle} {purchases : List Purchase} {refunds : List Message}
    (h : (purchases.mapM fun p => do
      let refund ← ticketCost r p.count
      pure (Message.send p.buyer [refund])) = .ok refunds) (d : Denom) :
    Message.total refunds d = r.price.worth d * Ledger.tickets purchases := by
  induction purchases generalizing refunds with
  | nil =>
      obtain rfl := pure_eq_ok.mp h
      rfl
  | cons p rest ih =>
      rw [List.mapM_cons] at h
      obtain ⟨message, hmessage, h⟩ := bind_eq_ok.mp h
      obtain ⟨messages, hrest, h⟩ := bind_eq_ok.mp h
      obtain rfl := pure_eq_ok.mp h
      obtain ⟨refund, hrefund, hmessage⟩ := bind_eq_ok.mp hmessage
      obtain rfl := pure_eq_ok.mp hmessage
      rw [Message.total_cons, ih hrest, Message.coins, Coin.total_cons, Coin.total_nil,
        worth_ticketCost hrefund]
      simp only [Ledger.tickets, List.map_cons, List.sum_cons, Nat.mul_add, Nat.add_zero]

theorem split?_eq_some {total treasury rest : Amount} {cut : Decimal}
    (h : split? total cut = some (treasury, rest)) : total.val = treasury.val + rest.val := by
  obtain ⟨t, _, h⟩ := Option.bind_eq_some_iff.mp h
  obtain ⟨left, hleft, h⟩ := Option.bind_eq_some_iff.mp h
  obtain ⟨rfl, rfl⟩ := Prod.mk.inj (Option.some.inj h)
  exact Amount.sub?_eq_some.mp hleft

/-- The parts of the proceeds make up the whole: nothing is lost by rounding. -/
theorem total_proceeds {config : Config} {r : Raffle} {messages : List Message}
    (h : proceedsMessages config r = .ok messages) (d : Denom) :
    Message.total messages d = r.price.worth d * r.sold.toNat := by
  obtain ⟨total, htotal, h⟩ := bind_eq_ok.mp h
  obtain ⟨⟨treasury, rest⟩, hsplit, h⟩ := bind_eq_ok.mp h
  obtain rfl := pure_eq_ok.mp h
  have hsum := split?_eq_some (orAbort_eq_ok.mp hsplit)
  have hpart : ∀ (receiver : Address) (a : Amount),
      Message.total (if a.isZero then [] else [.send receiver [⟨total.denom, a⟩]]) d =
        if total.denom = d then a.val else 0 := by
    intro receiver a
    split
    · next hz => rw [Amount.isZero_iff.mp hz, ite_self, Message.total_nil]
    · simp [Message.coins, Coin.worth]
  rw [← worth_ticketCost htotal, Message.total_append, hpart, hpart, Coin.worth]
  split
  · exact hsum.symm
  · rfl

end Contract

/-! ## Limits that keep counts from being clamped -/

/-- The contract-wide number of tickets and that of every raffle are below the greatest count. -/
structure Store.Limited (s : Store) : Prop where
  config : ∀ {config}, s.config = some config → LimitBounded config.maxTickets
  raffles : ∀ {id r}, s.raffles.get? id = some r → r.Bounded

theorem limitBounded_capped {config : Config} (h : LimitBounded config.maxTickets)
    (requested : Option TicketCount) : LimitBounded (RaffleOptions.capped config requested) := by
  obtain ⟨most, hmost, hlt⟩ := h
  unfold RaffleOptions.capped
  rw [hmost]
  cases requested with
  | none => exact ⟨most, rfl, hlt⟩
  | some n =>
      refine ⟨_, rfl, ?_⟩
      split
      · exact hlt
      · next hn =>
        rw [UInt32.le_iff_toNat_le] at hn
        omega

theorem Store.Limited.change {s s' : Store} {t : Turn} {focus : Option RaffleId} (h : s.Limited)
    (hc : Change s t focus s') (hlimit : ∀ n, t.limit? = some n → n.toNat < UInt32.size - 1) :
    s'.Limited where
  config := by
    intro config' h'
    obtain hsame | ⟨config, config'', hconfig, h'', heq, _⟩ := hc.config
    · exact h.config (hsame ▸ h')
    obtain rfl := Option.some.inj (h'.symm.trans h'')
    rcases heq with heq | heq
    · rw [heq]
      exact h.config hconfig
    · rw [heq]
      cases hn : t.limit? with
      | none => exact h.config hconfig
      | some n => exact ⟨n, rfl, hlimit n hn⟩
  raffles := by
    intro id r hr
    cases hc.raffle id with
    | same raffle _ _ => exact h.raffles (raffle ▸ hr)
    | entered hnew raffle _ _ =>
        obtain rfl := Option.some.inj (raffle.symm.trans hr)
        rw [hnew.entered]
        exact limitBounded_capped (h.config hnew.configured) _
    | revised kept hrev raffle _ _ =>
        obtain rfl := Option.some.inj (raffle.symm.trans hr)
        have hb := h.raffles kept
        cases hrev with
        | modified hconfig _ _ => exact limitBounded_capped (h.config hconfig) _
        | _ => exact hb
    | sold hsale =>
        obtain rfl := Option.some.inj (hsale.record.symm.trans hr)
        exact Raffle.bounded_afterSale.mpr (h.raffles hsale.kept)

/-! ## Each turn is balanced -/

namespace Contract

variable {s s' : Store} {now : Timestamp} {config : Config} {id : RaffleId} {raffle : Raffle}

theorem Creation.escrow {r : CreateRequest} {owner : Address}
    (h : Creation s now config r owner id raffle s') (d : Denom) :
    s'.escrow d = s.escrow d + Asset.total r.prizes d := by
  have hsum : s'.escrow d = s.escrow d + raffle.escrow d := by
    obtain rfl := h.store
    exact Store.escrow_of_entered h.fresh rfl
  rw [hsum, h.entered, Raffle.escrow_of_unsettled ⟨rfl, rfl⟩, UInt32.toNat_zero, Nat.mul_zero,
    Nat.add_zero]

/-- A price is changed only while nothing is sold, so it does not matter to what is held. -/
theorem Modification.escrow {sender : Address} {r : ModifyRequest}
    (h : Modification s now sender config r raffle s') (hs : ∀ id, s.Accounted now id) (d : Denom) :
    s'.escrow d = s.escrow d := by
  obtain ⟨hunsettled, hlt⟩ := Raffle.phase?_eq_created.mp h.created
  have hsum := Store.escrow_of_replaced (d := d) h.kept (congrArg Store.raffles h.store)
  have hzero := (hs _).sold_eq_zero h.kept hlt
  rw [Raffle.escrow_of_unsettled hunsettled, Raffle.escrow_of_unsettled (by exact hunsettled)]
    at hsum
  simp only [hzero, UInt32.toNat_zero, Nat.mul_zero] at hsum
  omega

theorem Sale.escrow {buyer : Address} {count : TicketCount} {price : Coin}
    (h : Sale s now buyer id count raffle price s') (hb : raffle.Bounded) (d : Denom) :
    s'.escrow d = s.escrow d + price.worth d * count.toNat := by
  have hunsettled := (Raffle.phase?_eq_started.mp h.started).1
  have hsum := Store.escrow_of_replaced (d := d) h.kept (congrArg Store.raffles h.store)
  have hafter : (afterSale raffle now (addClamped raffle.sold count)).escrow d =
      Asset.total raffle.prizes d + raffle.price.worth d * (raffle.sold.toNat + count.toNat) := by
    rw [Raffle.escrow_of_unsettled (unsettled_afterSale.mpr hunsettled), afterSale_prizes,
      afterSale_price, afterSale_sold, addClamped_eq (h.fits hb)]
  rw [hafter, Raffle.escrow_of_unsettled hunsettled, h.priced, Asset.worth, Nat.mul_add] at hsum
  omega

theorem Draw.escrow {answer : RandomnessAnswer} {job : Job} {winner : Option Address}
    (h : Draw s now answer job raffle winner s') (d : Denom) : s'.escrow d = s.escrow d := by
  have hraffles : s'.raffles = s.raffles.insert job.raffle
      { raffle with winner, randomness := some answer.randomness } := by
    rw [h.store, Store.raffles_clearJob]
    rfl
  have hsum := Store.escrow_of_replaced (d := d) h.kept hraffles
  exact Nat.add_right_cancel hsum

theorem Cancellation.escrow {sender : Address} (h : Cancellation s now sender id raffle s')
    (d : Denom) : s.escrow d = s'.escrow d + (Asset.total raffle.prizes d +
      raffle.price.worth d * raffle.sold.toNat) := by
  have hunsettled := Raffle.unsettled_of_cancellable h.cancellable
  have hraffles : s'.raffles = s.raffles.insert id { raffle with cancelled := true } := by
    rw [h.store, Store.raffles_clearJob]
    rfl
  have hsum := Store.escrow_of_replaced (d := d) h.kept hraffles
  rw [Raffle.escrow_of_cancelled (r := { raffle with cancelled := true }) rfl,
    Raffle.escrow_of_unsettled hunsettled] at hsum
  exact hsum.symm

theorem Claim.escrow (h : Claim s now id raffle s') (d : Denom) :
    s.escrow d = s'.escrow d + (Asset.total raffle.prizes d +
      raffle.price.worth d * raffle.sold.toNat) := by
  have hsum := Store.escrow_of_replaced (d := d) h.kept (congrArg Store.raffles h.store)
  rw [Raffle.escrow_of_claimed (r := { raffle with claimed := true }) rfl,
    Raffle.escrow_of_unsettled (Raffle.phase?_eq_finished.mp h.finished).1] at hsum
  exact hsum.symm

theorem Inquiry.escrow {attempt : UInt32} (h : Inquiry s now config id attempt raffle s')
    (d : Denom) : s'.escrow d = s.escrow d := by
  obtain rfl := h.store
  exact Store.escrow_congr (raffles_requestRandomness _ _ _ _ _ _)

theorem total_request (s : Store) (now : Timestamp) (config : Config) (id : RaffleId)
    (attempt : UInt32) (after : Option Timestamp) (d : Denom) :
    Message.total [(requestRandomness s now config id attempt after).2.2] d =
      config.oracleFee.worth d := by
  rw [Message.total_cons, Message.total_nil, Nat.add_zero]
  exact total_oracleFunds config.oracleFee d

variable {env : Surroundings} {caller : Caller} {response : Response}

/-- What comes in with a creation is handed on, apart from the prizes. -/
theorem total_create {r : CreateRequest} (h : create s env caller r = .ok (s', response))
    (d : Denom) : Coin.total caller.funds d =
      Message.total response.messages d + Asset.total r.prizes d := by
  obtain ⟨config, purse, messages, owner, id, raffle, entered, _, hpurse, hcollect, _, hrest⟩ :=
    create_eq_ok h
  have hfunds := Purse.amountOf_ofCoins? hpurse d
  have hshare := total_collect hcollect d
  rcases hrest with ⟨hauto, _, hmessages⟩ | ⟨closing, hauto, _, hmessages⟩
  · rw [oracleShare, hauto, if_neg (by simp)] at hshare
    rw [hmessages]
    omega
  · rw [oracleShare, if_pos hauto] at hshare
    rw [hmessages, Message.total_append, total_request]
    omega

theorem create_balanced {r : CreateRequest} (h : create s env caller r = .ok (s', response))
    (d : Denom) : s.escrow d + Coin.total caller.funds d =
      Message.total response.messages d + s'.escrow d := by
  obtain ⟨config, _, _, owner, id, raffle, entered, hcreation, _, _, _, hrest⟩ := create_eq_ok h
  have hpaid := total_create h d
  have hentered := hcreation.escrow d
  have hsame : s'.escrow d = entered.escrow d := by
    rcases hrest with ⟨_, rfl, _⟩ | ⟨_, _, hcycle, _⟩
    · rfl
    · rw [hcycle.store]
      exact Store.escrow_congr (raffles_requestRandomness _ _ _ _ _ _)
  omega

/-- A token that arrives is worth nothing in any denomination. -/
theorem deposit_balanced {r : DepositRequest} (h : deposit s env caller r = .ok (s', response))
    (d : Denom) : s'.escrow d = s.escrow d ∧ Message.total response.messages d = 0 := by
  obtain ⟨_, _, _, _, _, _, hcreation, _, _, _, hprizes, _, hmessages⟩ := deposit_eq_ok h
  rw [hcreation.escrow d, hmessages]
  rcases hprizes with hp | hp <;> rw [hp] <;> exact ⟨rfl, rfl⟩

theorem buy_balanced {r : BuyRequest} (hl : s.Limited)
    (h : buy s env caller r = .ok (s', response)) (d : Denom) :
    s.escrow d + Coin.total caller.funds d = Message.total response.messages d + s'.escrow d := by
  obtain ⟨raffle, price, hsale, _, ⟨amount, hfunds, hamount⟩, hmessages⟩ := buy_eq_ok h
  calc
    s.escrow d + Coin.total caller.funds d = s.escrow d + price.worth d * r.count.toNat := by
      rw [total_payment hfunds hamount]
    _ = s'.escrow d := (hsale.escrow (hl.raffles hsale.kept) d).symm
    _ = Message.total response.messages d + s'.escrow d := by
      rw [hmessages, Message.total_nil, Nat.zero_add]

/-- What comes in with a request for the winner goes back, or is handed on to the oracle. -/
theorem total_determineWinner (h : determineWinner s env caller id = .ok (s', response))
    (d : Denom) : Coin.total caller.funds d = Message.total response.messages d := by
  obtain ⟨_, hmessages⟩ | ⟨config, raffle, _, hfee, hmessages⟩ := determineWinner_eq_ok h
  · rw [hmessages, total_returned]
  · rw [hmessages, total_request, Payment.total_of_oracleFee hfee d]

theorem determineWinner_balanced (h : determineWinner s env caller id = .ok (s', response))
    (d : Denom) : s.escrow d + Coin.total caller.funds d =
      Message.total response.messages d + s'.escrow d := by
  have hsame : s'.escrow d = s.escrow d := by
    obtain ⟨rfl, _⟩ | ⟨config, raffle, hinquiry, _, _⟩ := determineWinner_eq_ok h
    · rfl
    · exact hinquiry.escrow d
  rw [total_determineWinner h d, hsame, Nat.add_comm]

/-- What comes in with a request for another answer is handed on to the oracle. -/
theorem total_updateRandomness (h : updateRandomness s env caller id = .ok (s', response))
    (d : Denom) : Coin.total caller.funds d = Message.total response.messages d := by
  obtain ⟨config, raffle, attempt, _, _, hfee, hmessages⟩ := updateRandomness_eq_ok h
  rw [hmessages, total_request, Payment.total_of_oracleFee hfee d]

theorem updateRandomness_balanced (h : updateRandomness s env caller id = .ok (s', response))
    (d : Denom) : s.escrow d + Coin.total caller.funds d =
      Message.total response.messages d + s'.escrow d := by
  obtain ⟨config, raffle, attempt, hinquiry, _⟩ := updateRandomness_eq_ok h
  rw [total_updateRandomness h d, hinquiry.escrow d, Nat.add_comm]

/-- A cancellation pays back by the ledger, and the books say that this is every sold ticket. -/
theorem cancel_balanced (hs : ∀ id, s.Accounted env.now id) (hl : s.Limited)
    (h : cancel s env caller id = .ok (s', response)) (d : Denom) :
    s.escrow d = Message.total response.messages d + s'.escrow d := by
  obtain ⟨raffle, refunds, hcancel, hrefunds, hmessages⟩ := cancel_eq_ok h
  have hbooks := (hs id).books hcancel.kept (.inr (hl.raffles hcancel.kept))
  have hsold : raffle.sold.toNat = Ledger.tickets (s.ledger id).purchases := by
    rw [hbooks.consecutive.stop_eq, Nat.zero_add]
    rfl
  calc
    s.escrow d = s'.escrow d +
        (Asset.total raffle.prizes d + raffle.price.worth d * raffle.sold.toNat) := hcancel.escrow d
    _ = s'.escrow d + (Message.total (prizeMessages raffle raffle.owner) d +
        Message.total refunds d) := by
      rw [prizeMessages, total_transfers, total_refunds hrefunds, hsold]
    _ = Message.total response.messages d + s'.escrow d := by
      rw [hmessages, Message.total_append, Nat.add_comm]

theorem claim_balanced (h : claim s env id = .ok (s', response)) (d : Denom) :
    s.escrow d = Message.total response.messages d + s'.escrow d := by
  obtain ⟨config, raffle, proceeds, hclaim, _, hproceeds, hmessages⟩ := claim_eq_ok h
  calc
    s.escrow d = s'.escrow d +
        (Asset.total raffle.prizes d + raffle.price.worth d * raffle.sold.toNat) := hclaim.escrow d
    _ = s'.escrow d + (Message.total (prizeMessages raffle (raffle.winner.getD raffle.owner)) d +
        Message.total proceeds d) := by
      rw [prizeMessages, total_transfers, total_proceeds hproceeds]
    _ = Message.total response.messages d + s'.escrow d := by
      rw [hmessages, Message.total_append, Nat.add_comm]

end Contract

/-- What comes in with a turn that goes through is what leaves and what is held in addition. -/
theorem Turn.balanced {t : Turn} {s s' : Store} {response : Response}
    (hs : ∀ id, s.Accounted t.now id) (hl : s.Limited)
    (hpay : t.takesPayment = false → t.funds = [])
    (h : t.outcome s = .ok (s', response)) (d : Denom) :
    s.escrow d + Coin.total t.funds d = Message.total response.messages d + s'.escrow d := by
  cases t with
  | execute env caller request =>
      cases request with
      | create r => exact create_balanced h d
      | buy r => exact buy_balanced hl h d
      | determineWinner id => exact determineWinner_balanced h d
      | updateRandomness id => exact updateRandomness_balanced h d
      | cancel id =>
          rw [hpay rfl, Coin.total_nil, Nat.add_zero]
          exact cancel_balanced hs hl h d
      | claim id =>
          rw [hpay rfl, Coin.total_nil, Nat.add_zero]
          exact claim_balanced h d
      | deposit r =>
          obtain ⟨hsame, hmessages⟩ := deposit_balanced h d
          rw [hpay rfl, Coin.total_nil, Nat.add_zero, hsame, hmessages, Nat.zero_add]
      | modify r =>
          obtain ⟨_, _, hmodify, hmessages⟩ := modify_eq_ok h
          rw [hpay rfl, Coin.total_nil, Nat.add_zero, hmodify.escrow hs d, hmessages,
            Message.total_nil, Nat.zero_add]
      | receiveRandomness answer =>
          obtain ⟨_, _, _, hdraw, _, hmessages⟩ := receiveRandomness_eq_ok h
          rw [hpay rfl, Coin.total_nil, Nat.add_zero, hdraw.escrow d, hmessages, Message.total_nil,
            Nat.zero_add]
      | updateConfig r =>
          obtain ⟨_, _, _, _, rfl, hmessages⟩ := updateConfig_eq_ok h
          rw [hpay rfl, hmessages, Message.total_nil, Nat.zero_add]
          rfl
      | setLock lock =>
          obtain ⟨_, _, _, rfl, hmessages⟩ := setLock_eq_ok h
          rw [hpay rfl, hmessages, Message.total_nil, Nat.zero_add]
          rfl
  | govern now request =>
      cases request with
      | setLock lock =>
          obtain ⟨_, _, rfl, hmessages⟩ := govern_eq_ok h
          rw [hmessages, Message.total_nil, Nat.zero_add]
          rfl
  | migrate now =>
      obtain ⟨rfl, rfl⟩ := Prod.mk.inj (Except.ok.inj h)
      exact Nat.add_comm _ _

/-! ## Runs are balanced -/

/-- The greatest number of tickets that a count can hold. -/
def greatestCount : TicketCount := 4294967295

theorem toNat_lt_of_ne_greatestCount {n : TicketCount} (h : n ≠ greatestCount) :
    n.toNat < UInt32.size - 1 := by
  have hne : n.toNat ≠ 4294967295 := fun hn => h (UInt32.toNat_inj.mp hn)
  have := n.toNat_lt
  have : UInt32.size = 4294967296 := rfl
  omega

variable {now now' : Timestamp} {s s' : Store} {steps : List Step}

theorem attached_cons (step : Step) (steps : List Step) (d : Denom) :
    attached (step :: steps) d = step.attached d + attached steps d := rfl

theorem emitted_cons (step : Step) (steps : List Step) (d : Denom) :
    emitted (step :: steps) d = step.emitted d + emitted steps d := rfl

/-- The books stay in order along a run, the limits stay bounded, and what comes in is what leaves
and what is held in addition. Steps that are refused are asked nothing. -/
theorem Run.balanced (h : Run .forward now s steps now' s') (hs : ∀ id, s.Accounted now id)
    (hl : s.Limited)
    (hpay : ∀ step ∈ steps, step.response.isSome → step.turn.takesPayment = false →
      step.turn.funds = [])
    (hlimit : ∀ step ∈ steps, step.response.isSome → step.turn.limit? ≠ some greatestCount) :
    (∀ id, s'.Accounted now' id) ∧ s'.Limited ∧
      ∀ d, s.escrow d + attached steps d = emitted steps d + s'.escrow d := by
  induction h with
  | start => exact ⟨hs, hl, fun d => Nat.add_comm _ _⟩
  | @turn steps now' s' t _ hclock ih =>
      obtain ⟨hs', hl', hsum⟩ := ih
        (fun step hstep => hpay step (List.mem_cons_of_mem _ hstep))
        (fun step hstep => hlimit step (List.mem_cons_of_mem _ hstep))
      have hs'' : ∀ id, s'.Accounted t.now id := fun id => (hs' id).later hclock
      cases hout : t.outcome s' with
      | ok effect =>
          obtain ⟨after, response⟩ := effect
          obtain ⟨focus, hchange⟩ := Turn.change hout
          have haccepted : (t.response? s').isSome := by
            rw [Turn.response?_of_ok hout]
            rfl
          have hfunds := hpay _ List.mem_cons_self haccepted
          have hbelow := hlimit _ List.mem_cons_self haccepted
          rw [Turn.after_of_ok hout, Turn.response?_of_ok hout]
          refine ⟨fun id => (hs'' id).change rfl hchange, hl'.change hchange ?_, fun d => ?_⟩
          · intro n hn
            apply toNat_lt_of_ne_greatestCount
            rintro rfl
            exact hbelow hn
          · have hturn := Turn.balanced hs'' hl' hfunds hout d
            have := hsum d
            rw [attached_cons, emitted_cons]
            simp only [Step.attached, Step.emitted]
            omega
      | error fault =>
          rw [Turn.after_of_error hout, Turn.response?_of_error hout]
          refine ⟨hs'', hl', fun d => ?_⟩
          rw [attached_cons, emitted_cons]
          simp only [Step.attached, Step.emitted, Nat.zero_add]
          exact hsum d

/-- What has been attached to the steps of a run that went through is what their messages have sent
out, and what the contract holds on account of the raffles that are neither cancelled nor claimed.
Of the steps that went through, those that take no payment have brought no funds and none has set
the greatest limit; whatever was refused on the way does not count. -/
theorem escrow_conserved {caller : Caller} {request : SetupRequest} {s₀ : Store}
    {response : Response} (hsetup : setup .empty caller request = .ok (s₀, response))
    (hfunds : caller.funds = []) (hmost : request.maxTickets ≠ some greatestCount)
    (hrun : Run .forward now s₀ steps now' s')
    (hpay : ∀ step ∈ steps, step.response.isSome → step.turn.takesPayment = false →
      step.turn.funds = [])
    (hlimit : ∀ step ∈ steps, step.response.isSome → step.turn.limit? ≠ some greatestCount)
    (d : Denom) :
    Coin.total caller.funds d + attached steps d =
      Message.total response.messages d + emitted steps d + s'.escrow d := by
  obtain ⟨config, hconfig, hs₀, hmessages⟩ := setup_eq_ok hsetup
  have hlimited : s₀.Limited := by
    rw [hs₀]
    refine ⟨?_, nofun⟩
    rintro _ ⟨rfl⟩
    refine ⟨_, hconfig.maxTickets, toNat_lt_of_ne_greatestCount ?_⟩
    cases hm : request.maxTickets with
    | none => decide
    | some n =>
        rintro rfl
        exact hmost hm
  have haccounted : ∀ id, s₀.Accounted now id :=
    Reachable.accounted ⟨caller, request, s₀, response, now, [], hsetup, .start⟩
  have hzero : s₀.escrow d = 0 := by
    rw [hs₀]
    rfl
  calc
    Coin.total caller.funds d + attached steps d = s₀.escrow d + attached steps d := by
      rw [hfunds, hzero, Coin.total_nil]
    _ = emitted steps d + s'.escrow d := (hrun.balanced haccounted hlimited hpay hlimit).2.2 d
    _ = Message.total response.messages d + emitted steps d + s'.escrow d := by
      rw [hmessages, Message.total_nil, Nat.zero_add]

namespace Sample

/-- A stranger attaches coins to the order to set the greatest limit, and is refused. -/
def intrusion : Turn :=
  .execute (env 6) ⟨"stranger", [coin 3 "ustars"]⟩
    (.updateConfig ⟨none, none, none, none, none, some greatestCount, none, none, none, none⟩)

/-- The steps of a run in which the stranger is refused between the creation and the sale. -/
def disturbed : List Step :=
  [⟨sale, sale.response? (intrusion.after created)⟩, ⟨intrusion, intrusion.response? created⟩,
    ⟨creation, creation.response? setUp⟩]

theorem disturbed_run : Run .forward ⟨5⟩ setUp disturbed ⟨6⟩ sold :=
  .turn sale (.turn intrusion (.turn creation .start (le_refl (⟨5⟩ : Timestamp)))
    (by decide : (⟨5⟩ : Timestamp) ≤ ⟨6⟩)) (le_refl (⟨6⟩ : Timestamp))

end Sample

/-- After the small run the contract holds the prize and the price of two tickets; the oracle's fee
has been handed on, and the order of the stranger has left no trace. -/
theorem escrow_of_sample : Sample.intrusion.response? Sample.created = none ∧
    Sample.intrusion.limit? = some greatestCount ∧
    (∀ d, Coin.total [] d + attached Sample.disturbed d =
      Message.total [] d + emitted Sample.disturbed d + Sample.sold.escrow d) ∧
    Sample.sold.escrow "ustars" = 8 ∧ Sample.sold.escrow "uprize" = 7 ∧
    Sample.sold.escrow "unois" = 0 := by
  have hrefused : Sample.intrusion.response? Sample.created = none := rfl
  refine ⟨hrefused, rfl, fun d => ?_, rfl, rfl, rfl⟩
  have hsetup : setup .empty ⟨"owner", []⟩ Sample.setting = .ok (Sample.setUp, _) := rfl
  refine escrow_conserved hsetup rfl (by decide) Sample.disturbed_run ?_ ?_ d
  · simp [Sample.disturbed, hrefused, Sample.sale, Sample.creation, Turn.takesPayment]
  · simp [Sample.disturbed, hrefused, Sample.sale, Sample.creation, Turn.limit?]

end Tombola
