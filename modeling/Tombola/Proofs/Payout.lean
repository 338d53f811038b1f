import Tombola.Proofs.Refund

/-!
# When a finished raffle can be claimed

A purchase is sold only when its own cost is in range, and a claim multiplies the price by all
tickets that are sold. So a finished raffle can be claimed by anyone as long as that product is in
range. Beyond it every claim is refused, and nothing can happen to the raffle any more.
-/

namespace Tombola

open Contract

variable {now now' : Timestamp} {s s' : Store} {t : Turn} {focus : Option RaffleId} {id : RaffleId}
  {r : Raffle} {config : Config} {steps : List Step}

namespace Contract

/-- A cut below one takes no more than the total. -/
theorem split?_isSome {cut : Decimal} (hcut : cut < .one) (total : Amount) :
    ∃ parts, split? total cut = some parts := by
  have hunits : cut.units.val ≤ Decimal.scale := Nat.le_of_lt hcut
  have hpart : total.val * cut.units.val / Decimal.scale ≤ total.val :=
    Nat.div_le_of_le_mul (by rw [Nat.mul_comm]; exact Nat.mul_le_mul_right _ hunits)
  have htreasury : Amount.ofNat? (total.val * cut.units.val / Decimal.scale) =
      some ⟨_, lt_of_le_of_lt hpart total.lt⟩ := Amount.ofNat?_eq_some.mpr rfl
  have hrest : total.sub? ⟨_, lt_of_le_of_lt hpart total.lt⟩ =
      some ⟨_, lt_of_le_of_lt (Nat.sub_le total.val _) total.lt⟩ :=
    Amount.sub?_eq_some.mpr (Nat.add_sub_of_le hpart).symm
  exact ⟨_, by rw [split?, htreasury, Option.bind_eq_bind, Option.bind_some, hrest]; rfl⟩

/-- The sales are paid out exactly when the price of all tickets is in range. -/
theorem proceeds_succeed_iff (hcut : config.cut < .one) :
    (∃ messages, proceedsMessages config r = .ok messages) ↔ r.Payable := by
  constructor
  · rintro ⟨messages, hproceeds⟩
    exact payable_of_proceeds hproceeds
  · rintro ⟨price, hprice, hrange⟩
    have htotal : ticketCost r r.sold = .ok ⟨price.denom, ⟨_, hrange⟩⟩ :=
      ticketCost_eq_ok.mpr ⟨price, hprice, rfl, rfl⟩
    obtain ⟨parts, hparts⟩ := split?_isSome hcut ⟨_, hrange⟩
    exact ⟨_, by rw [proceedsMessages, htotal, Outcome.ok_bind, hparts]; rfl⟩

/-- Tickets whose cost is out of range are refused with the two factors. -/
theorem ticketCost_overflow {price : Coin} (hprice : r.price = .coin price) (count : TicketCount)
    (h : amountBound ≤ price.amount.val * count.toNat) :
    ticketCost r count = .error (.refused (.overflow price.amount.val count.toNat)) := by
  have hnone : price.amount.times? count.toNat = none := dif_neg (Nat.not_lt.mpr h)
  simp only [ticketCost, hprice, hnone]
  rfl

end Contract

/-- Nothing happens any more to a finished raffle whose sales are out of range. -/
theorem Change.keeps_unpayable (hc : Change s t focus s') (hr : s.raffles.get? id = some r)
    (hfinished : r.phase? t.now = some .finished) (hr' : ¬r.Payable) :
    s'.raffles.get? id = some r := by
  cases hc.raffle id with
  | same raffle _ _ => exact raffle.trans hr
  | entered hnew _ _ _ => exact absurd hr (hnew.ne_some r)
  | revised kept hrev _ _ _ =>
      obtain rfl := Option.some.inj (hr.symm.trans kept)
      cases hrev with
      | modified _ hcreated _ => exact absurd (hfinished.symm.trans hcreated) (by simp)
      | drawn hclosed => exact absurd (hfinished.symm.trans hclosed) (by simp)
      | cancelled hopen =>
          rcases hopen with hcreated | ⟨hclosed, _⟩
          · exact absurd (hfinished.symm.trans hcreated) (by simp)
          · exact absurd (hfinished.symm.trans hclosed) (by simp)
      | claimed _ hpayable => exact absurd hpayable hr'
  | sold hsale =>
      obtain rfl := Option.some.inj (hr.symm.trans hsale.kept)
      exact absurd (hfinished.symm.trans hsale.started) (by simp)

/-- A raffle that is not settled is finished from its draw on. -/
theorem Store.Scheduled.finished (hs : s.Scheduled now id) (hr : s.raffles.get? id = some r)
    (hopen : r.Unsettled) (hz : r.randomness.isSome) : r.phase? now = some .finished :=
  Raffle.phase?_eq_finished.mpr ⟨hopen, hz, hs.drawn hr hz⟩

theorem Run.keeps_unpayable (h : Reachable .forward now s)
    (hrun : Run .forward now s steps now' s') (hr : s.raffles.get? id = some r)
    (hopen : r.Unsettled) (hz : r.randomness.isSome) (hr' : ¬r.Payable) :
    s'.raffles.get? id = some r := by
  apply hrun.records (P := fun _ _ s => s.raffles.get? id = some r)
  · intro steps now now' s _ hs
    exact hs
  · intro steps now' t s' s'' response hbefore hle hs hout
    obtain ⟨focus, hc⟩ := Turn.change hout
    have hscheduled := ((h.run hbefore).scheduled id).later hle
    exact hc.keeps_unpayable hs (hscheduled.finished hs hopen hz) hr'
  · intro steps t s' hs
    exact hs
  · exact hr

/-- Anyone can claim a finished raffle, exactly when the price times all tickets sold is in the
range of an amount. Otherwise every claim is refused for the overflow, and whatever is done later
the raffle stays as it is, with its prizes and its sales. -/
theorem finished_claimed_iff_sales_in_range (h : Reachable .forward now s)
    (hr : s.raffles.get? id = some r) (env : Surroundings) (caller : Caller)
    (hfinished : r.phase? env.now = some .finished) :
    ∃ price, r.price = .coin price ∧
      ((∃ effect, execute s env caller (.claim id) = .ok effect) ↔
        price.amount.val * r.sold.toNat < amountBound) ∧
      (amountBound ≤ price.amount.val * r.sold.toNat →
        execute s env caller (.claim id) =
          .error (.refused (.overflow price.amount.val r.sold.toNat)) ∧
        ∀ {steps now' s'}, Run .forward now s steps now' s' →
          s'.raffles.get? id = some r) := by
  obtain ⟨price, hprice, _⟩ := h.refundable id r hr
  obtain ⟨config, hconfig⟩ := h.configured
  have hpayable : r.Payable ↔ price.amount.val * r.sold.toNat < amountBound := by
    simp only [Raffle.Payable, hprice, Asset.coin.injEq, exists_eq_left']
  have hget : s.getConfig = .ok config := Outcome.orRefuse_eq_ok.mpr hconfig
  have hraffle : s.getRaffle id = .ok r := Outcome.orRefuse_eq_ok.mpr hr
  have hphase : ensurePhase r env.now .finished .claim = .ok () :=
    ensurePhase_eq_ok.mpr hfinished
  refine ⟨price, hprice, ?_, ?_⟩
  · rw [← hpayable, ← proceeds_succeed_iff (h.valid hconfig).cut]
    constructor
    · rintro ⟨⟨s', response⟩, hclaim⟩
      obtain ⟨config', r', proceeds, hclaimed, hconfig', hproceeds, _⟩ := claim_eq_ok hclaim
      obtain rfl := Option.some.inj (hconfig.symm.trans hconfig')
      obtain rfl := Option.some.inj (hr.symm.trans hclaimed.kept)
      exact ⟨proceeds, hproceeds⟩
    · rintro ⟨proceeds, hproceeds⟩
      simp only [execute, claim, hget, hraffle, hphase, hproceeds, Outcome.ok_bind]
      exact ⟨_, rfl⟩
  · intro hrange
    constructor
    · have hcost := ticketCost_overflow hprice r.sold hrange
      simp only [execute, claim, hget, hraffle, hphase, Outcome.ok_bind, proceedsMessages, hcost,
        Outcome.error_bind]
    · obtain ⟨hopen, hz, _⟩ := Raffle.phase?_eq_finished.mp hfinished
      intro steps now' s' hrun
      exact hrun.keeps_unpayable h hr hopen hz fun hp => absurd (hpayable.mp hp) (not_lt.mpr hrange)

namespace Sample

/-- The half of the bound of amounts. -/
def half : Coin := ⟨"ustars", ⟨0x80000000000000000000000000000000, by decide⟩⟩

/-- A raffle whose tickets cost half the bound of amounts each. -/
def dear : Turn := .execute (env 5) ⟨"owner", [coin 7 "uprize", coin 50 "unois"]⟩
  (.create { raffle with price := .coin half })

def dearSale : Turn := .execute (env 6) ⟨"buyer", [half]⟩ (.buy ⟨0, 1, .coin half⟩)

def dearSold : Store := dearSale.after (dearSale.after (dear.after setUp))

/-- Two tickets are sold one by one, and the winner is drawn. -/
def dearDrawn : Store := draw.after dearSold

theorem dearDrawn_reachable : Reachable .forward ⟨1000000005⟩ dearDrawn :=
  ⟨⟨"owner", []⟩, setting, setUp, _, ⟨5⟩, _, rfl,
    .turn draw (.turn dearSale (.turn dearSale (.turn dear .start
      (by decide : (⟨5⟩ : Timestamp) ≤ ⟨5⟩)) (by decide : (⟨5⟩ : Timestamp) ≤ ⟨6⟩))
      (by decide : (⟨6⟩ : Timestamp) ≤ ⟨6⟩)) (by decide : (⟨6⟩ : Timestamp) ≤ ⟨1000000005⟩)⟩

end Sample

/-- Both purchases are accepted and the raffle is finished, but no claim is: the two tickets
together cost just the bound of amounts. -/
theorem dear_sample_not_claimed : ∃ r, Sample.dearDrawn.raffles.get? 0 = some r ∧ r.sold = 2 ∧
    r.phase? ⟨1000000006⟩ = some .finished ∧
    ¬(∃ effect, execute Sample.dearDrawn (Sample.env 1000000006) ⟨"anyone", []⟩ (.claim 0) =
      .ok effect) ∧
    Sample.payout.after Sample.dearDrawn = Sample.dearDrawn := by
  obtain ⟨r, hr, hsold, hprice, hfinished⟩ : ∃ r, Sample.dearDrawn.raffles.get? 0 = some r ∧
      r.sold = 2 ∧ r.price = .coin Sample.half ∧ r.phase? ⟨1000000006⟩ = some .finished :=
    ⟨_, rfl, rfl, rfl, by decide⟩
  obtain ⟨price, hprice', hclaim, hstuck⟩ := finished_claimed_iff_sales_in_range
    Sample.dearDrawn_reachable hr (Sample.env 1000000006) ⟨"anyone", []⟩ hfinished
  obtain rfl := Asset.coin.inj (hprice.symm.trans hprice')
  have hrange : amountBound ≤ Sample.half.amount.val * r.sold.toNat := by
    rw [hsold]
    decide
  obtain ⟨hrefused, _⟩ := hstuck hrange
  exact ⟨r, hr, hsold, hfinished, fun h => absurd (hclaim.mp h) (not_lt.mpr hrange),
    Turn.after_of_error hrefused⟩

end Tombola
