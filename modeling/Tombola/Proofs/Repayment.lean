import Tombola.Proofs.Escrow
import Tombola.Proofs.Refund

/-!
# A cancellation pays every buyer back

A raffle can be given another price only while nothing of it is sold. So what a buyer has paid for
its tickets over a whole run is the present price of the tickets that the ledger says are the
buyer's, and this is what a cancellation sends back. Nothing keeps the owner from cancelling once
the phase and the clock allow it.
-/

namespace Tombola

open Contract

/-- What the buyer pays for tickets of the raffle with a step that goes through. -/
def Step.paid (buyer : Address) (id : RaffleId) (step : Step) (d : Denom) : Nat :=
  if step.turn.buys? = some (buyer, id) then step.attached d else 0

/-- What the buyer has paid for tickets of the raffle over all steps. -/
def paid (steps : List Step) (buyer : Address) (id : RaffleId) (d : Denom) : Nat :=
  (steps.map (·.paid buyer id d)).sum

/-- The message sends coins to the account. -/
def Message.isSentTo (account : Address) : Message → Bool
  | .send recipient _ => recipient = account
  | .call _ _ _ => false

/-- When the oracle has been waited for long enough, in nanoseconds and without any bound. -/
def Raffle.deadline (r : Raffle) : Nat :=
  r.options.start.nanos.toNat + r.options.duration.toNat * Timestamp.nanosPerSecond +
    r.options.timeout.toNat * Timestamp.nanosPerSecond

variable {now : Timestamp} {s s' : Store} {t : Turn} {id : RaffleId} {r : Raffle} {buyer : Address}
  {steps : List Step} {response : Response}

theorem paid_cons (step : Step) (steps : List Step) (buyer : Address) (id : RaffleId) (d : Denom) :
    paid (step :: steps) buyer id d = step.paid buyer id d + paid steps buyer id d := rfl

/-- Only a purchase of the raffle adds to what is paid for it. -/
theorem paid_cons_of_not_buys (h : ¬∃ buyer, t.buys? = some (buyer, id))
    (response : Option Response) (steps : List Step) (buyer : Address) (d : Denom) :
    paid (⟨t, response⟩ :: steps) buyer id d = paid steps buyer id d := by
  rw [paid_cons, Step.paid, if_neg fun hbuys => h ⟨buyer, hbuys⟩, Nat.zero_add]

theorem paid_cons_of_none (buyer : Address) (d : Denom) :
    paid (⟨t, none⟩ :: steps) buyer id d = paid steps buyer id d := by
  rw [paid_cons, Step.paid, Step.attached, ite_self, Nat.zero_add]

namespace Contract

/-- A refusal to compute the deadline is a refusal to cancel: it lies beyond every time. -/
theorem timedOut_iff {closing : Timestamp} (hc : r.closing? = some closing) :
    timedOut r now = .ok true ↔ r.deadline ≤ now.nanos.toNat := by
  rw [timedOut_eq_ok, Raffle.deadline]
  have hclosing := Raffle.closing?_eq_some.mp hc
  constructor
  · rintro ⟨closing', deadline, hc', hdeadline, hle⟩
    obtain rfl := Option.some.inj (hc.symm.trans hc')
    rw [Timestamp.addSeconds?_eq_some] at hdeadline
    rw [Timestamp.le_iff] at hle
    omega
  · intro hle
    cases hdeadline : closing.addSeconds? r.options.timeout with
    | none =>
        rw [Timestamp.addSeconds?_eq_none] at hdeadline
        have := now.nanos.toNat_lt
        omega
    | some deadline =>
        refine ⟨closing, deadline, hc, hdeadline, ?_⟩
        rw [Timestamp.addSeconds?_eq_some] at hdeadline
        rw [Timestamp.le_iff]
        omega

/-- The payments back to one buyer come to the price of the tickets in the buyer's purchases. -/
theorem total_refunds_to {refunds : List Message} (h : refundMessages s id r = .ok refunds)
    (buyer : Address) (d : Denom) : Message.total (refunds.filter (·.isSentTo buyer)) d =
      r.price.worth d * (s.ledger id).ticketsOf buyer := by
  apply total_refunds
  refine Outcome.mapM_eq_ok.mpr (List.rel_filter ?_ (Outcome.mapM_eq_ok.mp h))
  intro p m hm
  obtain ⟨refund, _, hm⟩ := Outcome.bind_eq_ok.mp hm
  obtain rfl := Outcome.pure_eq_ok.mp hm
  exact Iff.rfl

end Contract

/-- A purchase that goes through is a sale, and the buyer attaches what the tickets cost. -/
theorem Turn.sells (hout : t.outcome s = .ok (s', response)) (hbuys : t.buys? = some (buyer, id)) :
    ∃ count raffle price, Sale s t.now buyer id count raffle price s' ∧
      ∀ d, Coin.total t.funds d = price.worth d * count.toNat := by
  cases t with
  | execute env caller request =>
      cases request with
      | buy b =>
          obtain ⟨rfl, rfl⟩ := Prod.mk.inj (Option.some.inj hbuys)
          obtain ⟨raffle, price, hsale, _, ⟨amount, hfunds, hamount⟩, _⟩ := buy_eq_ok hout
          exact ⟨b.count, raffle, price, hsale, total_payment hfunds hamount⟩
      | _ => cases hbuys
  | govern _ _ => cases hbuys
  | migrate _ => cases hbuys

/-- What every buyer has paid for tickets of the raffle is the present price of the tickets that
the ledger says are the buyer's, as long as no count of them is clamped. -/
structure Store.PaidUp (steps : List Step) (id : RaffleId) (s : Store) : Prop where
  absent : s.raffles.get? id = none → ∀ buyer d, paid steps buyer id d = 0
  priced : ∀ {r}, s.raffles.get? id = some r → r.sold = 0 ∨ r.Bounded → ∀ buyer d,
    paid steps buyer id d = r.price.worth d * (s.ledger id).ticketsOf buyer

namespace Store.PaidUp

/-- A sale takes in what it adds to the ledger. -/
theorem sell {count : TicketCount} {price : Coin} (h : s.PaidUp steps id)
    (hs : s.Accounted t.now id) (hbuys : t.buys? = some (buyer, id))
    (hsale : Sale s t.now buyer id count r price s')
    (hfunds : ∀ d, Coin.total t.funds d = price.worth d * count.toNat) :
    s'.PaidUp (⟨t, some response⟩ :: steps) id where
  absent hnone := absurd (hsale.record.symm.trans hnone) (by simp)
  priced := by
    intro r' hr' hbound b d
    obtain rfl := Option.some.inj (hsale.record.symm.trans hr')
    have hbounded : r.Bounded := by
      rw [afterSale_sold] at hbound
      rcases hbound with hz | hb
      · exact absurd hz hsale.total_ne_zero
      · exact Raffle.bounded_afterSale.mp hb
    have hbooks := hs.books hsale.kept (.inr hbounded)
    have hstep : Step.paid b id ⟨t, some response⟩ d =
        price.worth d * if buyer = b then count.toNat else 0 := by
      rw [Step.paid, hbuys, Step.attached, hfunds]
      by_cases hb : buyer = b <;> simp [hb]
    rw [paid_cons, hstep, h.priced hsale.kept (.inr hbounded), afterSale_price, hsale.ledger,
      if_pos rfl, hbooks.consecutive.ticketsOf_insert, hsale.priced, Asset.worth, Nat.mul_add,
      Nat.add_comm]

/-- Every turn that goes through keeps the purchases paid up: a price changes only while there are
none. -/
theorem accept (h : s.PaidUp steps id) (hs : s.Accounted t.now id)
    (hout : t.outcome s = .ok (s', response)) : s'.PaidUp (⟨t, some response⟩ :: steps) id := by
  by_cases hbuys : ∃ buyer, t.buys? = some (buyer, id)
  · obtain ⟨buyer, hbuys⟩ := hbuys
    obtain ⟨count, raffle, price, hsale, hfunds⟩ := Turn.sells hout hbuys
    exact h.sell hs hbuys hsale hfunds
  · have hpaid := paid_cons_of_not_buys hbuys (some response) steps
    obtain ⟨focus, hc⟩ := Turn.change hout
    cases hc.raffle id with
    | same raffle ledger _ =>
        constructor
        · intro hnone b d
          rw [hpaid, h.absent (raffle ▸ hnone)]
        · intro r hr hbound b d
          rw [hpaid, h.priced (raffle ▸ hr) hbound, ledger]
    | entered hnew raffle ledger _ =>
        refine ⟨fun hnone => absurd (raffle.symm.trans hnone) (by simp), ?_⟩
        intro r _ _ b d
        rw [hpaid, h.absent hnew.fresh, ledger, (hs.absent hnew.fresh).ticketsOf_eq_zero,
          Nat.mul_zero]
    | @revised r r' kept hrev raffle ledger _ =>
        refine ⟨fun hnone => absurd (raffle.symm.trans hnone) (by simp), ?_⟩
        intro r₁ hr₁ hbound b d
        obtain rfl := Option.some.inj (raffle.symm.trans hr₁)
        rw [hpaid, ledger]
        cases hrev with
        | modified _ hcreated _ =>
            have hzero := hs.sold_eq_zero kept (Raffle.phase?_eq_created.mp hcreated).2
            have hbooks := hs.books kept (.inl hzero)
            rw [hzero] at hbooks
            rw [h.priced kept (.inl hzero), hbooks.ticketsOf_eq_zero, Nat.mul_zero, Nat.mul_zero]
        | _ => exact h.priced kept hbound b d
    | sold _ turn => exact absurd ⟨_, turn⟩ hbuys

theorem reject (h : s.PaidUp steps id) : s.PaidUp (⟨t, none⟩ :: steps) id where
  absent hnone b d := by rw [paid_cons_of_none, h.absent hnone]
  priced hr hbound b d := by rw [paid_cons_of_none, h.priced hr hbound]

end Store.PaidUp

theorem Recorded.paidUp (h : Recorded .forward steps now s) (id : RaffleId) :
    s.PaidUp steps id := by
  apply h.invariant (P := fun steps _ s => s.PaidUp steps id)
  · intro now config _ _ _
    exact ⟨fun _ _ _ => rfl, nofun⟩
  · intro steps now now' s _ hs
    exact hs
  · intro steps now t s s' response hreach hle hs hout
    exact hs.accept ((hreach.accounted id).later hle) hout
  · intro steps t s hs
    exact hs.reject

/-- The owner's cancellation goes through before the start, and while the raffle is closed once the
deadline has come, and at no other time. It hands every prize to the owner once, and sends every
buyer what the buyer has paid for tickets of the raffle over the whole run. -/
theorem cancel_pays_everyone_back (h : Recorded .forward steps now s)
    (hr : s.raffles.get? id = some r) (hb : r.Bounded) (env : Surroundings) (caller : Caller)
    (howner : caller.address = r.owner) :
    ((∃ effect, execute s env caller (.cancel id) = .ok effect) ↔
      r.phase? env.now = some .created ∨
        r.phase? env.now = some .closed ∧ r.deadline ≤ env.now.nanos.toNat) ∧
    ∀ s' response, execute s env caller (.cancel id) = .ok (s', response) →
      ∃ refunds, response.messages = r.prizes.map (transfer r.owner) ++ refunds ∧
        (∀ m ∈ refunds, ∃ buyer refund, m = .send buyer [refund]) ∧
        ∀ buyer d, Message.total (refunds.filter (·.isSentTo buyer)) d =
          paid steps buyer id d := by
  constructor
  · rw [cancel_succeeds_iff h.reachable hr howner]
    apply or_congr_right
    apply and_congr_right
    intro hclosed
    obtain ⟨_, _, closing, hclosing, _⟩ := Raffle.phase?_eq_closed.mp hclosed
    exact timedOut_iff hclosing
  · intro s' response hcancel
    obtain ⟨r₀, refunds, hcancelled, hrefunds, hmessages⟩ := cancel_eq_ok hcancel
    obtain rfl := Option.some.inj (hr.symm.trans hcancelled.kept)
    refine ⟨refunds, hmessages, ?_, ?_⟩
    · intro m hm
      obtain ⟨p, _, refund, _, rfl⟩ := refund_of_mem hrefunds hm
      exact ⟨p.buyer, refund, rfl⟩
    · intro buyer d
      rw [total_refunds_to hrefunds, (h.paidUp id).priced hr (.inr hb)]

/-- Two minutes after it has closed the raffle of the small run can be cancelled. The prize goes
back to its owner, and the buyer is sent the eight coins that the two tickets have cost. -/
theorem cancellation_of_sample : ∃ s' response refunds,
    execute Sample.sold (Sample.env 121000000005) ⟨"owner", []⟩ (.cancel 0) =
      .ok (s', response) ∧
    response.messages = .send "owner" [Sample.coin 7 "uprize"] :: refunds ∧
    Message.total (refunds.filter (·.isSentTo "buyer")) "ustars" = 8 := by
  obtain ⟨r, hr, hb, howner, hprizes, hclosed, hdeadline⟩ : ∃ r,
      Sample.sold.raffles.get? 0 = some r ∧ r.Bounded ∧ r.owner = "owner" ∧
      r.prizes = [.coin (Sample.coin 7 "uprize")] ∧
      r.phase? ⟨121000000005⟩ = some .closed ∧ r.deadline ≤ 121000000005 :=
    ⟨_, rfl, ⟨_, rfl, by decide⟩, rfl, rfl, by decide, by decide⟩
  obtain ⟨hsucceeds, hpays⟩ := cancel_pays_everyone_back Sample.sold_recorded hr hb
    (Sample.env 121000000005) ⟨"owner", []⟩ howner.symm
  obtain ⟨⟨s', response⟩, hcancel⟩ := hsucceeds.mpr (.inr ⟨hclosed, hdeadline⟩)
  obtain ⟨refunds, hmessages, _, hrefunds⟩ := hpays s' response hcancel
  rw [hprizes, howner] at hmessages
  exact ⟨s', response, refunds, hcancel, hmessages, hrefunds "buyer" "ustars"⟩

end Tombola
