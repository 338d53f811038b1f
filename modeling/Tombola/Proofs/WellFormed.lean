import Tombola.Proofs.Books
import Tombola.Proofs.Entries

/-!
# Stored raffles are well formed

A raffle comes about in two ways with different checks, its owner can change it before its start,
and buyers add to it. Whatever the clock does, its prizes, its price and its comment are such as
have been checked. When time does not go back, its tickets are within its limits too, and nothing is
entered for it before its start.
-/

namespace Tombola

open Contract

/-- What has been checked of the terms of every raffle. -/
structure Raffle.Checked (r : Raffle) : Prop where
  prizes : r.prizes ≠ []
  distinct : Asset.allDistinct r.prizes = true
  worthwhile : ∀ prize ∈ r.prizes, prize.isEmptyCoin = false
  price : ∃ price, r.price = .coin price ∧ price.amount.isZero = false
  preview : r.options.preview.toNat < r.prizes.length
  comment : ∀ comment, r.options.comment = some comment →
    comment.utf8ByteSize ≤ OptionsRequest.maxCommentBytes
  limited : ∃ most, r.options.maxTickets = some most

variable {clock : Clock} {now : Timestamp} {s s' : Store} {t : Turn} {focus : Option RaffleId}
  {id : RaffleId} {r r' : Raffle} {config : Config}

namespace Contract

/-- A request that passes its check has no comment that is too long. -/
theorem comment_le_of_check {request : OptionsRequest} {u : Unit} {comment : String}
    (h : request.check config = .ok u) (hcomment : request.comment = some comment) :
    comment.utf8ByteSize ≤ OptionsRequest.maxCommentBytes := by
  have hvalid : OptionsRequest.isValidComment comment = true := by
    unfold OptionsRequest.check at h
    rw [hcomment] at h
    cases hd : request.duration <;> cases ht : request.timeout <;>
      simp only [hd, ht, Outcome.bind_eq_ok, Outcome.ensure_eq_ok] at h
    · exact h
    · obtain ⟨_, _, h⟩ := h
      exact h
    · obtain ⟨_, _, h⟩ := h
      exact h
    · obtain ⟨_, _, _, _, h⟩ := h
      exact h
  exact of_decide_eq_true hvalid

theorem previewAmong_lt {prizes : Nat} (h : 0 < prizes) (preview : UInt32) :
    (RaffleOptions.previewAmong prizes preview).toNat < prizes := by
  unfold RaffleOptions.previewAmong
  split
  · exact h
  · omega

/-- When the configuration has a limit, so has every raffle. -/
theorem exists_capped (h : ∃ most, config.maxTickets = some most)
    (requested : Option TicketCount) :
    ∃ limit, RaffleOptions.capped config requested = some limit := by
  obtain ⟨most, hmost⟩ := h
  unfold RaffleOptions.capped
  rw [hmost]
  cases requested <;> exact ⟨_, rfl⟩

end Contract

/-! ## The terms of a raffle -/

/-- A contract that has been set up always has a limit on the tickets of a raffle. -/
theorem Reachable.limited (h : Reachable clock now s) (hconfig : s.config = some config) :
    ∃ most, config.maxTickets = some most := by
  obtain ⟨most, hmost, _⟩ := (h.valid hconfig).maxTickets
  exact ⟨most, hmost⟩

namespace Raffle.Checked

/-- A new raffle has been checked, whichever way it came about. -/
theorem entered {request : CreateRequest} {owner : Address}
    (h : Creation s now config request owner id r s')
    (hlimit : ∃ most, config.maxTickets = some most) : r.Checked := by
  obtain ⟨hprizes, hdistinct, hworth⟩ := h.prizes
  rw [h.entered]
  refine ⟨hprizes, hdistinct, hworth, checkPrice_eq_ok.mp h.priced, ?_, ?_,
    exists_capped hlimit _⟩
  · have hpos := List.length_pos_iff.mpr hprizes
    simp only [RaffleOptions.ofRequest]
    cases request.options.preview with
    | none => exact hpos
    | some preview => exact previewAmong_lt hpos preview
  · intro comment hcomment
    exact comment_le_of_check h.checked hcomment

/-- A change of the record keeps what is not named and checks what is. -/
theorem revised (h : r.Checked) {configured : Option Config}
    (hrev : r.Revision configured now r')
    (hlimit : ∀ config, configured = some config → ∃ most, config.maxTickets = some most) :
    r'.Checked := by
  cases hrev with
  | @modified price request config hconfig _ hpriced hchecked =>
      refine ⟨h.prizes, h.distinct, h.worthwhile, ?_, ?_, ?_, exists_capped (hlimit _ hconfig) _⟩
      · rcases hpriced with rfl | hpriced
        · exact h.price
        · exact checkPrice_eq_ok.mp hpriced
      · simp only [RaffleOptions.revise]
        cases request.preview with
        | none => exact h.preview
        | some preview => exact previewAmong_lt (List.length_pos_iff.mpr h.prizes) preview
      · intro comment hcomment
        simp only [RaffleOptions.revise] at hcomment
        cases hnamed : request.comment with
        | none =>
            rw [hnamed] at hcomment
            exact h.comment comment hcomment
        | some named =>
            rw [hnamed] at hcomment
            obtain rfl := Option.some.inj hcomment
            exact comment_le_of_check hchecked hnamed
  | drawn _ => exact { h with }
  | cancelled _ => exact { h with }
  | claimed _ _ => exact { h with }

/-- A sale changes neither what a raffle is about nor its limits. -/
theorem sold (h : r.Checked) (total : TicketCount) : (afterSale r now total).Checked := by
  unfold afterSale
  split
  · exact { h with }
  · exact { h with }

/-- A ticket costs something. -/
theorem worth_pos (h : r.Checked) {price : Coin} (hprice : r.price = .coin price) :
    0 < price.worth price.denom := by
  obtain ⟨price', hprice', hworth⟩ := h.price
  obtain rfl := Asset.coin.inj (hprice.symm.trans hprice')
  rw [Coin.worth, if_pos rfl]
  apply Nat.pos_of_ne_zero
  intro hz
  rw [Amount.isZero_iff.mpr hz] at hworth
  cases hworth

end Raffle.Checked

/-- Every raffle that is stored has been checked, whatever the clock does. -/
theorem Reachable.checked (h : Reachable clock now s) (hr : s.raffles.get? id = some r) :
    r.Checked := by
  refine h.induction (P := fun _ s => ∀ id r, s.raffles.get? id = some r → r.Checked)
    ?_ ?_ ?_ id r hr
  · intro now config _ _ _ id r hr
    cases hr
  · intro now now' s _ hs
    exact hs
  · intro now t s s' focus hreach _ hs hc id r hr
    cases hc.raffle id with
    | same raffle _ _ => exact hs id r (raffle ▸ hr)
    | entered hnew raffle _ _ _ =>
        obtain rfl := Option.some.inj (raffle.symm.trans hr)
        exact .entered hnew (hreach.limited hnew.configured)
    | revised kept hrev raffle _ _ =>
        obtain rfl := Option.some.inj (raffle.symm.trans hr)
        exact (hs id _ kept).revised hrev fun _ hconfig => hreach.limited hconfig
    | sold hsale _ =>
        obtain rfl := Option.some.inj (hsale.record.symm.trans hr)
        exact (hs id _ hsale.kept).sold _

/-! ## The tickets of a raffle -/

/-- A holding that is kept is of at least one ticket. -/
theorem Reachable.holding_ne_zero (h : Reachable clock now s) {buyer : Address}
    {count : TicketCount} (hcount : (s.holdingsOf buyer).get? id = some count) : count ≠ 0 := by
  refine h.invariant (P := fun _ s => ∀ buyer id count,
    (s.holdingsOf buyer).get? id = some count → count ≠ 0) ?_ ?_ ?_ buyer id count hcount
  · intro now config _ _ _ buyer id count hcount
    cases hcount
  · intro now now' s _ hs
    exact hs
  · intro t s s' focus hs hc buyer id count hcount
    rcases hc.holdings with hsame | ⟨buyer', id', count', raffle, price, _, hsale⟩
    · rw [Store.held_congr hsame] at hcount
      exact hs buyer id count hcount
    · rw [hsale.held] at hcount
      split at hcount
      · obtain rfl := Option.some.inj hcount
        exact addClamped_ne_zero _ hsale.positive
      · exact hs buyer id count hcount

/-- A purchase that is kept is of at least one ticket. -/
theorem Reachable.count_ne_zero (h : Reachable clock now s) {p : Purchase}
    (hp : p ∈ (s.ledger id).purchases) : p.count ≠ 0 := by
  obtain ⟨⟨slot, _⟩, hentry, rfl⟩ := List.mem_map.mp hp
  have hkept := (Table.mem_entries_iff _ _ _).mp hentry
  refine h.invariant (P := fun _ s => ∀ id slot p, (s.ledger id).get? slot = some p → p.count ≠ 0)
    ?_ ?_ ?_ id slot _ hkept
  · intro now config _ _ _ id slot p hkept
    cases hkept
  · intro now now' s _ hs
    exact hs
  · intro t s s' focus hs hc id slot p hkept
    rcases hc.tickets with ⟨hsame, _⟩ | ⟨buyer, id', count, raffle, price, _, _, hsale⟩
    · rw [Store.ledger, hsame] at hkept
      exact hs id slot p hkept
    · rw [hsale.ledger] at hkept
      split at hkept
      · rw [Table.get?_insert] at hkept
        split at hkept
        · obtain rfl := Option.some.inj hkept
          exact hsale.positive
        · exact hs id' slot p hkept
      · exact hs id slot p hkept

namespace Store

/-- The tickets of a raffle are within its limits. -/
structure Within (id : RaffleId) (s : Store) : Prop where
  raffle : ∀ {r most}, s.raffles.get? id = some r → r.options.maxTickets = some most →
    r.sold ≤ most
  buyer : ∀ {r most}, s.raffles.get? id = some r → r.options.maxPerBuyer = some most →
    ∀ buyer, s.holding buyer id ≤ most

/-- A raffle of which nothing is sold is within all limits. -/
theorem Within.of_unsold (hr : s.raffles.get? id = some r) (hsold : r.sold = 0)
    (hholding : ∀ buyer, s.holding buyer id = 0) : s.Within id := by
  constructor
  · intro r' most hr' _
    obtain rfl := Option.some.inj (hr.symm.trans hr')
    rw [hsold]
    exact UInt32.zero_le
  · intro r' most hr' _ buyer
    rw [hholding buyer]
    exact UInt32.zero_le

/-- Every change keeps the tickets within the limits: the limits change only while nothing is
sold, and a sale looks at both. -/
theorem Within.change (h : s.Within id) (hs : s.Accounted t.now id) (hc : Change s t focus s') :
    s'.Within id := by
  cases hc.raffle id with
  | same raffle _ holding =>
      constructor
      · intro r most hr
        exact h.raffle (raffle ▸ hr)
      · intro r most hr hmost buyer
        rw [holding buyer]
        exact h.buyer (raffle ▸ hr) hmost buyer
  | entered hnew raffle _ holding _ =>
      apply Within.of_unsold raffle
      · rw [hnew.entered]
      · intro buyer
        rw [holding buyer]
        exact (hs.absent hnew.fresh).holding_eq_zero buyer
  | @revised r r' kept hrev raffle _ holding =>
      -- New limits may be lower, but they only come before the start, when nothing is sold yet.
      rcases hrev.options with hsame | hlt
      · constructor
        · intro r₁ most hr₁ hmost
          obtain rfl := Option.some.inj (raffle.symm.trans hr₁)
          rw [hrev.sold]
          exact h.raffle kept (hsame ▸ hmost)
        · intro r₁ most hr₁ hmost buyer
          obtain rfl := Option.some.inj (raffle.symm.trans hr₁)
          rw [holding buyer]
          exact h.buyer kept (hsame ▸ hmost) buyer
      · have hsold := hs.sold_eq_zero kept hlt
        apply Within.of_unsold raffle (hrev.sold.trans hsold)
        have hbooks := hs.books kept (.inl hsold)
        rw [hsold] at hbooks
        intro buyer
        rw [holding buyer]
        exact hbooks.holding_eq_zero buyer
  | @sold buyer count r price hsale _ =>
      constructor
      · intro r₁ most hr₁ hmost
        obtain rfl := Option.some.inj (hsale.record.symm.trans hr₁)
        rw [afterSale_maxTickets] at hmost
        rw [afterSale_sold]
        exact hsale.withinRaffle most hmost
      · intro r₁ most hr₁ hmost other
        obtain rfl := Option.some.inj (hsale.record.symm.trans hr₁)
        rw [afterSale_maxPerBuyer] at hmost
        rw [hsale.holding]
        split
        · exact hsale.withinBuyer most hmost
        · exact h.buyer hsale.kept hmost other

/-- A stored raffle is well formed: its terms have been checked, its tickets are within its limits,
and as long as it is created nothing is entered for it. -/
structure WellFormed (now : Timestamp) (id : RaffleId) (r : Raffle) (s : Store) : Prop where
  checked : r.Checked
  sold : ∃ most, r.options.maxTickets = some most ∧ r.sold ≤ most
  held : ∀ most, r.options.maxPerBuyer = some most → ∀ buyer count,
    (s.holdingsOf buyer).get? id = some count → count ≤ most
  untouched : ∀ later, now ≤ later → r.phase? later = some .created →
    r.sold = 0 ∧ (s.ledger id).entries = [] ∧ ∀ buyer, (s.holdingsOf buyer).get? id = none

end Store

theorem Reachable.within (h : Reachable .forward now s) (id : RaffleId) : s.Within id := by
  refine h.induction (P := fun _ s => s.Within id) ?_ ?_ ?_
  · intro now config _ _ _
    exact ⟨nofun, nofun⟩
  · intro now now' s _ hs
    exact hs
  · intro now t s s' focus hreach hclock hs hc
    exact hs.change ((hreach.accounted id).later hclock) hc

/-- Every raffle that is stored is well formed, whichever way it came about and whatever has
happened to it since. -/
theorem stored_raffles_well_formed (h : Reachable .forward now s)
    (hr : s.raffles.get? id = some r) : s.WellFormed now id r := by
  have hchecked := h.checked hr
  have hwithin := h.within id
  have haccounted := h.accounted id
  have hholding : ∀ buyer count, (s.holdingsOf buyer).get? id = some count →
      s.holding buyer id = count := by
    intro buyer count hcount
    rw [Store.holding, hcount, Option.getD_some]
  refine ⟨hchecked, ?_, ?_, ?_⟩
  · obtain ⟨most, hmost⟩ := hchecked.limited
    exact ⟨most, hmost, hwithin.raffle hr hmost⟩
  · intro most hmost buyer count hcount
    rw [← hholding buyer count hcount]
    exact hwithin.buyer hr hmost buyer
  · intro later hle hcreated
    have hlt : now < r.options.start := lt_of_le_of_lt hle (Raffle.phase?_eq_created.mp hcreated).2
    have hsold := haccounted.sold_eq_zero hr hlt
    have hbooks := haccounted.books hr (.inl hsold)
    rw [hsold] at hbooks
    refine ⟨hsold, hbooks.consecutive.eq_nil, ?_⟩
    intro buyer
    cases hcount : (s.holdingsOf buyer).get? id with
    | none => rfl
    | some count =>
        have hzero := hbooks.holding_eq_zero buyer
        rw [hholding buyer count hcount] at hzero
        exact absurd hzero (h.holding_ne_zero hcount)

/-- The raffle of the small run is well formed once it has sold tickets. -/
theorem raffle_of_sample_well_formed :
    ∃ r, Sample.sold.raffles.get? 0 = some r ∧ r.sold = 2 ∧ Sample.sold.WellFormed ⟨6⟩ 0 r := by
  obtain ⟨r, hr, hsold⟩ : ∃ r, Sample.sold.raffles.get? 0 = some r ∧ r.sold = 2 := ⟨_, rfl, rfl⟩
  exact ⟨r, hr, hsold, stored_raffles_well_formed Sample.sold_reachable hr⟩

end Tombola
