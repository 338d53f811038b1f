import Tombola.Proofs.Authority
import Tombola.Proofs.Tally
import Tombola.Proofs.WellFormed

/-!
# The first ticket of a raffle

While nothing of a raffle on sale is sold, only a limit of zero keeps the first ticket from being
sold. The limit of the configuration is never zero. But the limits that an owner asks for, when a
raffle is created or changed, are not looked at, and may be. Where nobody has asked for a limit of
zero, everybody can buy the first ticket of every raffle; of a raffle that has one nobody can.
-/

namespace Tombola

open Contract

/-- No limit is zero. -/
def RaffleOptions.AdmitsTicket (o : RaffleOptions) : Prop :=
  o.maxTickets ≠ some 0 ∧ o.maxPerBuyer ≠ some 0

/-- The request sets a limit to zero. -/
def OptionsRequest.AsksForNone (r : OptionsRequest) : Prop :=
  r.maxTickets = some 0 ∨ r.maxPerBuyer = some 0

/-- The options that a turn asks for, on a creation in either way or on a change. -/
def Turn.options? : Turn → Option OptionsRequest
  | .execute _ _ (.create r) => some r.options
  | .execute _ _ (.modify m) => some m.options
  | .execute _ _ (.deposit d) =>
    match Wire.request.decodeBytes? d.payload with
    | some (.create r) => some r.options
    | _ => none
  | _ => none

/-- The step went through and has set a limit to zero. -/
def Step.BarsTickets (step : Step) : Prop :=
  step.response.isSome ∧ ∃ asked, step.turn.options? = some asked ∧ asked.AsksForNone

variable {clock : Clock} {now : Timestamp} {s s' : Store} {t : Turn} {id : RaffleId}
  {r : Raffle} {config : Config} {asked : OptionsRequest} {steps : List Step}
  {response : Response}

namespace RaffleOptions

/-- A limit of the configuration that is not zero makes no limit zero. -/
theorem capped_ne_zero (hconfig : config.Valid) {requested : Option TicketCount}
    (h : requested ≠ some 0) : capped config requested ≠ some 0 := by
  obtain ⟨most, hmost, hne⟩ := hconfig.maxTickets
  unfold capped
  rw [hmost]
  cases requested with
  | none => simpa using hne
  | some n =>
      have hn : n ≠ 0 := fun hz => h (congrArg some hz)
      rw [Ne, Option.some.injEq]
      split
      · exact hne
      · exact hn

theorem or_ne_zero {limit before : Option TicketCount} (h : limit ≠ some 0)
    (hbefore : before ≠ some 0) : limit.or before ≠ some 0 := by
  cases limit with
  | none => exact hbefore
  | some _ => exact h

theorem admitsTicket_ofRequest (hconfig : config.Valid) (h : ¬asked.AsksForNone) (prizes : Nat) :
    (ofRequest now prizes asked config).AdmitsTicket := by
  obtain ⟨htickets, hbuyer⟩ := not_or.mp h
  exact ⟨capped_ne_zero hconfig htickets, hbuyer⟩

theorem AdmitsTicket.revise {o : RaffleOptions} (ho : o.AdmitsTicket) (hconfig : config.Valid)
    (h : ¬asked.AsksForNone) (prizes : Nat) : (o.revise now prizes asked config).AdmitsTicket := by
  obtain ⟨htickets, hbuyer⟩ := not_or.mp h
  exact ⟨capped_ne_zero hconfig (or_ne_zero htickets ho.1), or_ne_zero hbuyer ho.2⟩

end RaffleOptions

/-! ## Where a limit of zero comes from -/

/-- The raffle, if there is one, has no limit of zero. -/
def Store.Admits (id : RaffleId) (s : Store) : Prop :=
  ∀ r, s.raffles.get? id = some r → r.options.AdmitsTicket

/-- The raffle that a turn enters has the options that the turn asks for. -/
theorem Turn.enters_asked (ht : t.creates = true) (hout : t.outcome s = .ok (s', response)) :
    ∃ config request owner new raffle entered,
      Creation s t.now config request owner new raffle entered ∧
      t.options? = some request.options ∧ s'.raffles.get? new = some raffle ∧
      Change s t (some new) s' := by
  cases t with
  | execute env caller request =>
      cases request with
      | create r =>
          obtain ⟨_, _, _, _, _, _, _, hnew, _, _, _, ⟨_, rfl, _⟩ | ⟨_, _, hcycle, _⟩⟩ :=
            create_eq_ok hout
          · exact ⟨_, r, _, _, _, _, hnew, rfl, hnew.record, .creation hnew rfl⟩
          · exact ⟨_, r, _, _, _, _, hnew, rfl, hcycle.record hnew.record,
              .autocycle hnew hcycle rfl⟩
      | deposit d =>
          obtain ⟨_, r, _, _, _, _, hnew, hpayload, _⟩ := deposit_eq_ok hout
          refine ⟨_, r, _, _, _, _, hnew, ?_, hnew.record, .creation hnew rfl⟩
          simp only [Turn.options?, hpayload]
      | _ => cases ht
  | govern _ _ => cases ht
  | migrate _ => cases ht

/-- A raffle that comes about has no limit of zero, if none was asked for. -/
theorem Turn.admits_entered (hvalid : ∀ {config}, s.config = some config → config.Valid)
    (hnone : s.raffles.get? id = none) (hasked : ∀ asked, t.options? = some asked →
      ¬asked.AsksForNone) (hout : t.outcome s = .ok (s', response)) : s'.Admits id := by
  intro r hr
  have hcreates : t.creates = true := by
    obtain ⟨focus, hc⟩ := Turn.change hout
    cases hc.raffle id with
    | same raffle _ _ => rw [raffle, hnone] at hr; cases hr
    | entered _ _ _ _ turn => exact turn
    | revised kept _ _ _ _ => rw [hnone] at kept; cases kept
    | sold hsale _ => exact absurd (hnone.symm.trans hsale.kept) (by simp)
  obtain ⟨config, request, owner, new, raffle, entered, hnew, hoptions, hrecord, hc⟩ :=
    Turn.enters_asked hcreates hout
  by_cases hid : new = id
  · subst hid
    obtain rfl := Option.some.inj (hrecord.symm.trans hr)
    rw [hnew.entered]
    exact RaffleOptions.admitsTicket_ofRequest (hvalid hnew.configured) (hasked _ hoptions) _
  · have hsame := (hc.agree fun heq => hid (Option.some.inj heq)).raffle
    rw [hsame, hnone] at hr
    cases hr

theorem Turn.modifies?_eq_some (h : t.modifies? = some id) : ∃ env caller m,
    t = .execute env caller (.modify m) ∧ m.raffle = id := by
  unfold Turn.modifies? at h
  split at h
  · next m => exact ⟨_, _, m, rfl, Option.some.inj h⟩
  · cases h

/-- A raffle that is stored keeps its limits, or has those that its owner asks for. -/
theorem Turn.admits_stored (hvalid : ∀ {config}, s.config = some config → config.Valid)
    (hr : s.raffles.get? id = some r) (hasked : ∀ asked, t.options? = some asked →
      ¬asked.AsksForNone) (hadmits : r.options.AdmitsTicket)
    (hout : t.outcome s = .ok (s', response)) : s'.Admits id := by
  intro r' hr'
  obtain ⟨r₁, hr₁, hwarrant⟩ := Turn.warrant hr hout
  obtain rfl := Option.some.inj (hr₁.symm.trans hr')
  cases hwarrant with
  | modified _ turn =>
      -- Only a change of this raffle sets its limits, and it sets them as it asks.
      obtain ⟨env, caller, m, rfl, rfl⟩ := modifies?_eq_some turn
      obtain ⟨config, r₀, hmodify, _⟩ := modify_eq_ok hout
      obtain rfl := Option.some.inj (hr.symm.trans hmodify.kept)
      rw [← Option.some.inj (hmodify.record.symm.trans hr₁)]
      exact hadmits.revise (hvalid hmodify.configured) (hasked _ rfl) _
  | _ => exact hadmits

/-- As long as no step sets a limit to zero no raffle has one. -/
theorem Recorded.admits (h : Recorded clock steps now s)
    (hsteps : ∀ step ∈ steps, ¬step.BarsTickets) (id : RaffleId) : s.Admits id := by
  refine h.unless (P := fun s => s.Admits id) ?_ ?_ hsteps
  · intro config caller request _ r hr
    cases hr
  · intro now t s s' response hreach hlast hs hout
    have hasked : ∀ asked, t.options? = some asked → ¬asked.AsksForNone :=
      fun asked heq hnone => hlast ⟨rfl, asked, heq, hnone⟩
    cases hr : s.raffles.get? id with
    | none => exact Turn.admits_entered hreach.valid hr hasked hout
    | some r => exact Turn.admits_stored hreach.valid hr hasked (hs r hr) hout

/-! ## The purchase of the first ticket -/

namespace Contract

open Outcome

/-- Only a limit of zero stops the first ticket. -/
theorem ensureWithin_first (limit : Option TicketCount) (scope : LimitScope) :
    ensureWithin limit scope 0 (addClamped 0 1) =
      if limit = some 0 then refuse (.ticketLimit scope 0 0 1) else .ok () := by
  cases limit with
  | none => rfl
  | some most =>
      by_cases hz : most = 0
      · subst hz
        rfl
      · have hpos : most.toNat ≠ 0 := fun heq => hz (UInt32.toNat_inj.mp heq)
        have hle : addClamped 0 1 ≤ most := by
          rw [UInt32.le_iff_toNat_le, addClamped_toNat, UInt32.toNat_zero, UInt32.toNat_one]
          omega
        rw [if_neg (by simpa using hz), ensureWithin, decide_eq_true hle, ensure_true]

/-- Where nothing is sold one ticket is entered, or refused for a limit of zero: the buyer's, or
else the raffle's. -/
theorem enterPurchase_first (now : Timestamp) (hsold : r.sold = 0) {buyer : Address}
    (hheld : s.holding buyer id = 0) :
    (r.options.AdmitsTicket → ∃ entered, enterPurchase s now buyer id r 1 = .ok entered) ∧
    (¬r.options.AdmitsTicket → enterPurchase s now buyer id r 1 = refuse (.ticketLimit
      (if r.options.maxPerBuyer = some 0 then .buyer else .raffle) 0 0 1)) := by
  unfold enterPurchase
  rw [hheld, hsold]
  dsimp only
  rw [ensureWithin_first, ensureWithin_first]
  constructor
  · rintro ⟨htickets, hbuyer⟩
    rw [if_neg hbuyer, if_neg htickets]
    exact ⟨_, rfl⟩
  · intro hnone
    by_cases hbuyer : r.options.maxPerBuyer = some 0
    · rw [if_pos hbuyer, if_pos hbuyer]
      rfl
    · have htickets : r.options.maxTickets = some 0 := by
        by_contra htickets
        exact hnone ⟨htickets, hbuyer⟩
      rw [if_neg hbuyer, if_pos htickets, if_neg hbuyer]
      rfl

/-- One ticket of a raffle on sale, paid for with its price, is only a matter of the limits. -/
theorem buy_one (hconfig : s.config = some config) (hopen : config.locks.locked = false)
    (hr : s.raffles.get? id = some r) {price : Coin} (hprice : r.price = .coin price)
    {env : Surroundings} (hstarted : r.phase? env.now = some .started) (buyer : Address) :
    ∃ answer : Store × Raffle → Effect,
      execute s env ⟨buyer, [price]⟩ (.buy ⟨id, 1, .coin price⟩) =
        enterPurchase s env.now buyer id r 1 >>= fun entered => .ok (answer entered) := by
  have hphase : ensurePhase r env.now .started .buyTickets = .ok () :=
    ensurePhase_eq_ok.mpr hstarted
  have hcost : ticketCost r 1 = .ok price :=
    ticketCost_eq_ok.mpr ⟨price, hprice, rfl, (Nat.mul_one _).symm⟩
  have hsent : statedPayment ⟨buyer, [price]⟩ (.coin price) price = .ok price :=
    statedPayment_eq_ok.mpr ⟨rfl, rfl, rfl⟩
  have hpaid : price.amount ≤ price.amount := Nat.le_refl _
  rw [execute, buy, Store.getConfig_of hconfig, ok_bind, hopen, Bool.not_false, ensure_true,
    ok_bind, Store.getRaffle_of hr, ok_bind, hphase, ok_bind]
  simp only [hcost, hsent, hpaid, decide_true, ensure_true, ok_bind]
  exact ⟨_, rfl⟩

end Contract

/-- While nothing of a raffle on sale is sold, whoever attaches the price of one ticket gets it,
exactly when no limit of the raffle is zero. Otherwise the purchase is refused, whoever makes it.
And no raffle has a limit of zero as long as no step that went through has set a limit to zero. -/
theorem first_ticket_sold_iff (h : Recorded clock steps now s) (hconfig : s.config = some config)
    (hopen : config.locks.locked = false) (hr : s.raffles.get? id = some r) (env : Surroundings)
    (hstarted : r.phase? env.now = some .started) (hunsold : r.sold = 0) :
    ∃ price, r.price = .coin price ∧
      (∀ buyer, (∃ effect, execute s env ⟨buyer, [price]⟩ (.buy ⟨id, 1, .coin price⟩) =
        .ok effect) ↔ r.options.AdmitsTicket) ∧
      (¬r.options.AdmitsTicket → ∀ buyer,
        execute s env ⟨buyer, [price]⟩ (.buy ⟨id, 1, .coin price⟩) = Outcome.refuse (.ticketLimit
          (if r.options.maxPerBuyer = some 0 then .buyer else .raffle) 0 0 1)) ∧
      ((∀ step ∈ steps, ¬step.BarsTickets) → r.options.AdmitsTicket) := by
  obtain ⟨price, hprice, _⟩ := (h.reachable.checked hr).price
  have hbooks : Books (s.ledger id) (s.holding · id) 0 := by
    rw [← hunsold]
    apply (h.reachable.counted id).books hr
    rw [hunsold]
    decide
  have hsome (buyer : Address) (hadmits : r.options.AdmitsTicket) :
      ∃ effect, execute s env ⟨buyer, [price]⟩ (.buy ⟨id, 1, .coin price⟩) = .ok effect := by
    obtain ⟨answer, hbuy⟩ := buy_one hconfig hopen hr hprice hstarted buyer
    obtain ⟨entered, henter⟩ :=
      (enterPurchase_first env.now hunsold (hbooks.holding_eq_zero buyer)).1 hadmits
    rw [hbuy, henter]
    exact ⟨_, rfl⟩
  have hnone (hbars : ¬r.options.AdmitsTicket) (buyer : Address) :
      execute s env ⟨buyer, [price]⟩ (.buy ⟨id, 1, .coin price⟩) = Outcome.refuse (.ticketLimit
        (if r.options.maxPerBuyer = some 0 then .buyer else .raffle) 0 0 1) := by
    obtain ⟨answer, hbuy⟩ := buy_one hconfig hopen hr hprice hstarted buyer
    rw [hbuy, (enterPurchase_first env.now hunsold (hbooks.holding_eq_zero buyer)).2 hbars]
    rfl
  refine ⟨price, hprice, ?_, hnone, fun hsteps => h.admits hsteps id r hr⟩
  intro buyer
  constructor
  · rintro ⟨effect, hbuy⟩
    by_contra hbars
    rw [hnone hbars buyer] at hbuy
    exact Outcome.refuse_ne_ok hbuy
  · exact hsome buyer

namespace Sample

/-- A raffle is asked for that may sell no ticket. -/
def barredCreation : Turn :=
  .execute (env 5) ⟨"owner", [coin 7 "uprize", coin 50 "unois"]⟩
    (.create { raffle with options := { OptionsRequest.empty with maxTickets := some 0 } })

def barred : Store := barredCreation.after setUp

theorem barred_recorded :
    Recorded .forward [⟨barredCreation, barredCreation.response? setUp⟩] ⟨5⟩ barred :=
  ⟨⟨"owner", []⟩, setting, setUp, _, ⟨5⟩, rfl,
    .turn barredCreation .start (by decide : (⟨5⟩ : Timestamp) ≤ ⟨5⟩)⟩

end Sample

/-- The raffle that may sell no ticket is created and goes on sale all the same, and every purchase
of its first ticket is refused. -/
theorem first_ticket_of_sample_refused : ∃ r, Sample.barred.raffles.get? 0 = some r ∧
    r.phase? (Sample.env 6).now = some .started ∧ r.sold = 0 ∧
    r.price = .coin (Sample.coin 4 "ustars") ∧ ¬r.options.AdmitsTicket ∧ ∀ buyer,
    execute Sample.barred (Sample.env 6) ⟨buyer, [Sample.coin 4 "ustars"]⟩
      (.buy ⟨0, 1, .coin (Sample.coin 4 "ustars")⟩) =
        Outcome.refuse (.ticketLimit .raffle 0 0 1) := by
  obtain ⟨config, hconfig, hopen⟩ : ∃ config, Sample.barred.config = some config ∧
      config.locks.locked = false := ⟨_, rfl, rfl⟩
  obtain ⟨r, hr, hstarted, hunsold, hprice, htickets, hbuyer⟩ : ∃ r,
      Sample.barred.raffles.get? 0 = some r ∧ r.phase? (Sample.env 6).now = some .started ∧
      r.sold = 0 ∧ r.price = .coin (Sample.coin 4 "ustars") ∧ r.options.maxTickets = some 0 ∧
      r.options.maxPerBuyer = none := ⟨_, rfl, by decide, rfl, rfl, rfl, rfl⟩
  have hbars : ¬r.options.AdmitsTicket := fun hadmits => hadmits.1 htickets
  obtain ⟨price, hpaid, _, hrefused, _⟩ := first_ticket_sold_iff Sample.barred_recorded hconfig
    hopen hr (Sample.env 6) hstarted hunsold
  obtain rfl := Asset.coin.inj (hprice.symm.trans hpaid)
  refine ⟨r, hr, hstarted, hunsold, hprice, hbars, ?_⟩
  intro buyer
  rw [hrefused hbars buyer, hbuyer]
  rfl

end Tombola
