import Tombola.Proofs.OnSale

/-!
# Every purchase can be paid back

A purchase is sold only when its cost is in range, and the price stays once a ticket is sold. So the
payments back of a cancellation never fail, and the owner can cancel whenever the phase and the
timeout allow it.
-/

namespace Tombola

open Contract

/-- The price is in coins, and the cost of every purchase is in range. -/
def Ledger.Affordable (l : Ledger) (price : Asset) : Prop :=
  ∃ c, price = .coin c ∧ ∀ p ∈ l.purchases, c.amount.val * p.count.toNat < amountBound

/-- Every purchase of the raffle can be paid back at the present price. -/
def Store.Refundable (s : Store) (id : RaffleId) : Prop :=
  ∀ r, s.raffles.get? id = some r → (s.ledger id).Affordable r.price

variable {now : Timestamp} {s s' : Store} {id : RaffleId} {r : Raffle}

namespace Ledger.Affordable

variable {l : Ledger} {price : Asset}

/-- Where nothing is sold every price in coins will do. -/
theorem of_nothing {holding : Address → TicketCount} {u : Unit} (h : Books l holding 0)
    (hprice : checkPrice price = .ok u) : l.Affordable price := by
  obtain ⟨c, rfl, _⟩ := checkPrice_eq_ok.mp hprice
  have hnil : l.entries = [] := h.consecutive.eq_nil
  refine ⟨c, rfl, ?_⟩
  rw [Ledger.purchases, hnil]
  exact fun _ hmem => absurd hmem List.not_mem_nil

/-- A purchase whose cost is in range can be added. -/
theorem insert {c : Coin} (h : l.Affordable (.coin c)) (slot : Slot) {p : Purchase}
    (hp : c.amount.val * p.count.toNat < amountBound) :
    Ledger.Affordable (Table.insert l slot p) (.coin c) := by
  obtain ⟨c', hc, hl⟩ := h
  obtain rfl := Asset.coin.inj hc
  refine ⟨c, rfl, ?_⟩
  intro p' hp'
  obtain ⟨e, he, rfl⟩ := List.mem_map.mp hp'
  rcases Table.mem_insertEntry he with rfl | he
  · exact hp
  · exact hl _ (List.mem_map_of_mem he)

/-- The payments back succeed. -/
theorem refunds (h : (s.ledger id).Affordable r.price) :
    ∃ refunds, refundMessages s id r = .ok refunds := by
  obtain ⟨c, hc, hl⟩ := h
  apply Outcome.exists_mapM_eq_ok
  intro p hp
  have hcost : ticketCost r p.count = .ok ⟨c.denom, ⟨_, hl p hp⟩⟩ :=
    ticketCost_eq_ok.mpr ⟨c, hc, rfl, rfl⟩
  exact ⟨_, Outcome.bind_eq_ok.mpr ⟨_, hcost, rfl⟩⟩

end Ledger.Affordable

namespace Store.Refundable

/-- Every change keeps the purchases refundable: the price changes only while nothing is sold. -/
theorem change {t : Turn} {focus : Option RaffleId} (h : s.Refundable id)
    (hs : s.Accounted t.now id) (hc : Change s t focus s') : s'.Refundable id := by
  intro r' hr'
  cases hc.raffle id with
  | same raffle ledger _ =>
      rw [ledger]
      exact h r' (raffle ▸ hr')
  | entered hnew raffle ledger _ =>
      obtain rfl := Option.some.inj (hr'.symm.trans raffle)
      rw [ledger, hnew.entered]
      exact .of_nothing (hs.absent hnew.fresh) hnew.priced
  | @revised r₀ _ kept hrev raffle ledger _ =>
      obtain rfl := Option.some.inj (hr'.symm.trans raffle)
      rw [ledger]
      cases hrev with
      | modified _ hcreated hpriced =>
          rcases hpriced with hsame | hchecked
          · rw [hsame]
            exact h r₀ kept
          · have hzero := hs.sold_eq_zero kept (Raffle.phase?_eq_created.mp hcreated).2
            have hbooks := hs.books kept (.inl hzero)
            rw [hzero] at hbooks
            exact .of_nothing hbooks hchecked
      | _ => exact h r₀ kept
  | sold hsale =>
      obtain rfl := Option.some.inj (hr'.symm.trans hsale.record)
      have hbefore := h _ hsale.kept
      rw [hsale.ledger, if_pos rfl, afterSale_price, hsale.priced]
      rw [hsale.priced] at hbefore
      exact hbefore.insert _ hsale.affordable

end Store.Refundable

theorem Reachable.refundable (h : Reachable .forward now s) (id : RaffleId) :
    s.Refundable id := by
  apply h.induction (P := fun _ s => s.Refundable id)
  · intro now config _ _ _ r
    nofun
  · intro now now' s _ hs
    exact hs
  · intro now t s s' focus hreach hle hs hc
    exact hs.change ((hreach.accounted id).later hle) hc

/-- The owner's cancellation goes through before the start, and while the raffle is closed once the
timeout has run out, and at no other time. -/
theorem cancel_succeeds_iff (h : Reachable .forward now s) (hr : s.raffles.get? id = some r)
    {env : Surroundings} {caller : Caller} (howner : caller.address = r.owner) :
    (∃ effect, execute s env caller (.cancel id) = .ok effect) ↔
      r.phase? env.now = some .created ∨
        r.phase? env.now = some .closed ∧ timedOut r env.now = .ok true := by
  constructor
  · rintro ⟨⟨s', response⟩, hcancel⟩
    obtain ⟨r₀, _, hcancelled, _⟩ := cancel_eq_ok hcancel
    obtain rfl := Option.some.inj (hr.symm.trans hcancelled.kept)
    exact hcancelled.cancellable
  · intro hcancellable
    have hledger : ((s.putRaffle id { r with cancelled := true }).clearJob id).ledger id =
        s.ledger id := by
      rw [Store.ledger_clearJob, Store.ledger_putRaffle]
    have hrefundable := h.refundable id r hr
    rw [← hledger] at hrefundable
    obtain ⟨refunds, hrefunds⟩ :=
      Ledger.Affordable.refunds (r := { r with cancelled := true }) hrefundable
    have howned : s.ownedRaffle id caller.address = .ok r := ownedRaffle_eq_ok.mpr ⟨hr, howner⟩
    have hensure : ensureCancellable r env.now = .ok () := ensureCancellable_eq_ok.mpr hcancellable
    simp only [execute, cancel, howned, hensure, Outcome.ok_bind, hrefunds]
    exact ⟨_, rfl⟩

end Tombola
