import Tombola.Proofs.OnSale

/-!
# When a sold-out raffle closes

The sale of the last ticket cuts the duration of a raffle to the whole seconds that have passed
since its start. So the raffle closes as far into the present second as its start lay in its own: at
once if that part of the second is over, and otherwise within the second.
-/

namespace Tombola

open Contract Outcome

/-- The nanoseconds that have passed of the second that a time is in. -/
def Timestamp.partOfSecond (t : Timestamp) : Nat := t.nanos.toNat % nanosPerSecond

variable {clock : Clock} {now : Timestamp} {s s' : Store} {id : RaffleId} {r : Raffle}

namespace Contract

/-- A raffle that sells its last ticket closes in the present second, as far into it as its start
lay in its own. -/
theorem closing?_of_last {total : TicketCount} {closing : Timestamp}
    (hall : some total = r.options.maxTickets) (hstart : r.options.start ≤ now)
    (hc : (afterSale r now total).closing? = some closing) :
    closing.nanos.toNat + now.partOfSecond = now.nanos.toNat + r.options.start.partOfSecond := by
  rw [afterSale, if_pos hall, Raffle.closing?_eq_some] at hc
  rw [Timestamp.le_iff] at hstart
  have hg : Timestamp.nanosPerSecond = 1000000000 := rfl
  simp only [elapsed_toNat, Timestamp.seconds_toNat, hg] at hc
  simp only [Timestamp.partOfSecond, hg]
  omega

/-- With its last ticket sold a raffle is on sale as long as less of the present second is over than
was of its own second at its start, and has closed from then on. -/
theorem phase?_of_last {total : TicketCount} (hall : some total = r.options.maxTickets)
    (hstarted : r.phase? now = some .started) : (afterSale r now total).phase? now =
      some (if now.partOfSecond < r.options.start.partOfSecond then .started
        else if r.randomness.isNone then .closed else .finished) := by
  obtain ⟨hopen, hstart, closing, hc, hnow⟩ := Raffle.phase?_eq_started.mp hstarted
  obtain ⟨closing', hc', _⟩ := closing?_afterSale total hstart hc hnow
  have hclosing := closing?_of_last hall hstart hc'
  have hlate : now < closing' ↔ now.partOfSecond < r.options.start.partOfSecond := by
    rw [Timestamp.lt_iff]
    omega
  apply (Raffle.phase?_eq_some_of_started (unsettled_afterSale.mpr hopen)
    (by rwa [afterSale_start])).mpr
  refine ⟨closing', hc', ?_⟩
  rw [afterSale_randomness]
  simp only [hlate]

/-- A raffle that has as many tickets sold as can be sells no more, unless it may sell as many as
can be counted. -/
theorem buy_ne_ok_of_sold_out (hr : s.raffles.get? id = some r)
    (hall : some r.sold = r.options.maxTickets) (hbounded : r.Bounded) (env : Surroundings)
    (caller : Caller) {b : BuyRequest} (hb : b.raffle = id) (effect : Effect) :
    execute s env caller (.buy b) ≠ .ok effect := by
  subst hb
  obtain ⟨s', response⟩ := effect
  intro hbuy
  obtain ⟨r₀, _, hsale, _⟩ := buy_eq_ok hbuy
  obtain rfl := Option.some.inj (hr.symm.trans hsale.kept)
  have hfits := hsale.fits hbounded
  have hle := UInt32.le_iff_toNat_le.mp (hsale.withinRaffle _ hall.symm)
  have hpos : b.count.toNat ≠ 0 := fun hz => hsale.positive (UInt32.toNat_inj.mp hz)
  rw [addClamped_eq hfits] at hle
  omega

/-- Whoever attaches the oracle's fee pays it. -/
theorem oracleFee_oracleFunds (fee : Coin) :
    Payment.oracleFee (oracleFunds fee) fee = .ok () := by
  have hheld : fee.amount ≤ Payment.firstAmount (oracleFunds fee) fee.denom := by
    unfold oracleFunds
    split
    · next hz =>
      show fee.amount.val ≤ 0
      exact Nat.le_of_eq (by simpa [Amount.isZero] using hz)
    · simp only [Payment.firstAmount, List.find?_cons_of_pos, BEq.rfl, Option.map_some,
        Option.getD_some]
      exact Nat.le_refl fee.amount.val
  have hexact : Payment.exactly (oracleFunds fee) fee = .ok fee := by
    unfold oracleFunds
    split
    · next hz => simp [Payment.exactly, hz, pure_eq_ok]
    · simp [Payment.exactly, Payment.sameCoin, pure_eq_ok]
  simp only [Payment.oracleFee, hexact, decide_eq_true hheld, ensure_true]
  rfl

/-- The winner of a closed raffle can be asked for: whoever attaches the oracle's fee is served. -/
theorem determineWinner_of_closed (hs : s.Matched) {config : Config}
    (hconfig : s.config = some config) (hr : s.raffles.get? id = some r) (env : Surroundings)
    (hclosed : r.phase? env.now = some .closed) (payer : Address) :
    ∃ effect, execute s env ⟨payer, oracleFunds config.oracleFee⟩ (.determineWinner id) =
      .ok effect := by
  have hphase : ensurePhase r env.now .closed .determineWinner = .ok () :=
    ensurePhase_eq_ok.mpr hclosed
  rw [execute, determineWinner, Store.getConfig_of hconfig, ok_bind, Store.getRaffle_of hr, ok_bind,
    hphase, ok_bind]
  cases hj : s.awaited.get? id with
  | none =>
      rw [outstanding_eq_ok_none.mpr hj, ok_bind, oracleFee_oracleFunds]
      exact ⟨_, rfl⟩
  | some j =>
      obtain ⟨job, hjob, _⟩ := hs.awaited_iff.mp hj
      rw [outstanding_eq_ok_some.mpr ⟨hj, hjob⟩]
      exact ⟨_, rfl⟩

/-- The winner of a raffle on sale can not be asked for. -/
theorem determineWinner_ne_ok_of_started (hr : s.raffles.get? id = some r) {env : Surroundings}
    (hstarted : r.phase? env.now = some .started) {payer : Caller} {effect : Effect} :
    execute s env payer (.determineWinner id) ≠ .ok effect := by
  intro h
  simp only [execute, determineWinner, bind_eq_ok, ensurePhase_eq_ok] at h
  obtain ⟨_, _, r₀, hr₀, _, hclosed, _⟩ := h
  rw [Store.getRaffle_of hr] at hr₀
  obtain rfl := Except.ok.inj hr₀
  rw [hstarted] at hclosed
  cases hclosed

end Contract

/-- A purchase that leaves a raffle with as many tickets sold as it has never moves the closing time
later. It moves it into the present second, as far as the start lay in its own second. If that part
of the second is over, the raffle has closed, and as long as there is no randomness the winner can
be asked for at once. If not, the raffle is still on sale and the winner can not be asked for yet.
In both cases nothing more is sold, unless the raffle may sell as many tickets as can be counted.
When time does not go back there is no randomness. -/
theorem last_sale_closes_within_second (h : Reachable clock now s) {env : Surroundings}
    {caller : Caller} {b : BuyRequest} {response : Response} {r' : Raffle}
    (hbuy : execute s env caller (.buy b) = .ok (s', response))
    (hr' : s'.raffles.get? b.raffle = some r') (hall : some r'.sold = r'.options.maxTickets) :
    (∃ r closing closing', s.raffles.get? b.raffle = some r ∧ r.closing? = some closing ∧
      r'.closing? = some closing' ∧ closing' ≤ closing ∧
      closing'.nanos.toNat + env.now.partOfSecond =
        env.now.nanos.toNat + r'.options.start.partOfSecond) ∧
    (r'.options.start.partOfSecond ≤ env.now.partOfSecond →
      r'.phase? env.now = some (if r'.randomness.isNone then .closed else .finished) ∧
      (r'.randomness = none → ∃ config, s'.config = some config ∧ ∀ payer, ∃ effect,
        execute s' env ⟨payer, oracleFunds config.oracleFee⟩ (.determineWinner b.raffle) =
          .ok effect)) ∧
    (env.now.partOfSecond < r'.options.start.partOfSecond →
      r'.phase? env.now = some .started ∧
      ∀ payer effect, execute s' env payer (.determineWinner b.raffle) ≠ .ok effect) ∧
    (r'.Bounded → ∀ later caller' b' effect, b'.raffle = b.raffle →
      execute s' later caller' (.buy b') ≠ .ok effect) ∧
    ∀ past, Reachable .forward past s → past ≤ env.now → r'.randomness = none := by
  obtain ⟨r, price, hsale, _⟩ := buy_eq_ok hbuy
  obtain rfl := Option.some.inj (hsale.record.symm.trans hr')
  obtain ⟨_, hstart, closing, hc, hnow⟩ := Raffle.phase?_eq_started.mp hsale.started
  rw [afterSale_sold, afterSale_maxTickets] at hall
  obtain ⟨closing', hc', hle⟩ := closing?_afterSale (addClamped r.sold b.count) hstart hc hnow
  have hphase := phase?_of_last hall hsale.started
  rw [afterSale_start, afterSale_randomness]
  refine ⟨⟨r, closing, closing', hsale.kept, hc, hc', hle, closing?_of_last hall hstart hc'⟩,
    ?_, ?_, ?_, ?_⟩
  · intro hover
    rw [if_neg (not_lt.mpr hover)] at hphase
    refine ⟨hphase, ?_⟩
    intro hnone
    rw [hnone] at hphase
    obtain ⟨config, hconfig⟩ := h.configured
    have hconfig' : s'.config = some config := by
      rw [hsale.store]
      exact hconfig
    have hmatched : s'.Matched :=
      h.matched.change (.sale (t := .execute env caller (.buy b)) hsale rfl)
    exact ⟨config, hconfig', determineWinner_of_closed hmatched hconfig' hr' env hphase⟩
  · intro hlate
    rw [if_pos hlate] at hphase
    exact ⟨hphase, fun payer effect => determineWinner_ne_ok_of_started hr' hphase⟩
  · intro hbounded later caller' b' effect hb'
    refine buy_ne_ok_of_sold_out hr' ?_ hbounded later caller' hb' effect
    rw [afterSale_sold, afterSale_maxTickets, hall]
  · intro past hpast hle
    by_contra hsome
    obtain ⟨c, hc₀, hover⟩ :=
      (hpast.scheduled b.raffle).drawn hsale.kept (Option.isSome_iff_ne_none.mpr hsome)
    obtain rfl := Option.some.inj (hc.symm.trans hc₀)
    exact absurd hnow (not_lt.mpr (le_trans hover hle))

namespace Sample

/-- A raffle of two tickets starts late in its second. -/
def lateCreation : Turn :=
  .execute (env 900000000) ⟨"owner", [coin 7 "uprize"]⟩
    (.create { raffle with
      options := { OptionsRequest.empty with duration := some 1000, maxTickets := some 2 }
      autocycle := none })

/-- Both tickets are sold, early in a second. -/
def lastSale : Turn :=
  .execute (env 2100000000) ⟨"buyer", [coin 8 "ustars"]⟩ (.buy ⟨0, 2, .coin (coin 8 "ustars")⟩)

def lateCreated : Store := lateCreation.after setUp

theorem lateCreated_reachable : Reachable .forward ⟨900000000⟩ lateCreated :=
  ⟨⟨"owner", []⟩, setting, setUp, _, ⟨5⟩, _, rfl,
    .turn lateCreation .start (by decide : (⟨5⟩ : Timestamp) ≤ ⟨900000000⟩)⟩

end Sample

/-- The raffle of two tickets started at 0.9 s. At 2.1 s both are sold, which brings its closing
time forward to 2.9 s: until then it is on sale without a ticket left, and nobody can ask for the
winner. -/
theorem last_sale_of_sample_leaves_open : ∃ r',
    (Sample.lastSale.after Sample.lateCreated).raffles.get? 0 = some r' ∧
    some r'.sold = r'.options.maxTickets ∧ r'.closing? = some ⟨2900000000⟩ ∧
    r'.phase? ⟨2100000000⟩ = some .started ∧
    ∀ payer effect, execute (Sample.lastSale.after Sample.lateCreated) (Sample.env 2100000000) payer
      (.determineWinner 0) ≠ .ok effect := by
  obtain ⟨r', response, hbuy, hr', hall, hstart⟩ : ∃ r' response,
      execute Sample.lateCreated (Sample.env 2100000000) ⟨"buyer", [Sample.coin 8 "ustars"]⟩
        (.buy ⟨0, 2, .coin (Sample.coin 8 "ustars")⟩) =
          .ok (Sample.lastSale.after Sample.lateCreated, response) ∧
      (Sample.lastSale.after Sample.lateCreated).raffles.get? 0 = some r' ∧
      some r'.sold = r'.options.maxTickets ∧ r'.options.start = ⟨900000000⟩ :=
    ⟨_, _, rfl, rfl, rfl, rfl⟩
  obtain ⟨⟨_, _, closing, _, _, hclosing, _, hpart⟩, _, hopen, _⟩ :=
    last_sale_closes_within_second Sample.lateCreated_reachable hbuy hr' hall
  have hnow : (Sample.env 2100000000).now.partOfSecond = 100000000 := by decide
  have hlate : r'.options.start.partOfSecond = 900000000 := by
    rw [hstart]
    decide
  have hnanos : closing.nanos.toNat = 2900000000 := by
    have hsale : (Sample.env 2100000000).now.nanos.toNat = 2100000000 := by decide
    omega
  have hclose : closing = ⟨2900000000⟩ :=
    congrArg Timestamp.mk (UInt64.toNat_inj.mp hnanos)
  rw [hclose] at hclosing
  obtain ⟨hphase, hnone⟩ := hopen (by omega)
  exact ⟨r', hr', hall, hclosing, hphase, hnone⟩

end Tombola
