import Tombola.Proofs.Change
import Tombola.Proofs.Ledger

/-!
# The books on sold tickets

Three records tell which tickets of a raffle are sold: its number of sold tickets, its ledger and
the holding of each buyer. They agree as long as no sum of tickets is clamped, and that is so for
every raffle that may sell fewer tickets than the greatest count.
-/

namespace Tombola

open Contract

/-- There is a limit, and it is below the greatest count. -/
def LimitBounded (limit : Option TicketCount) : Prop :=
  ∃ most, limit = some most ∧ most.toNat < UInt32.size - 1

/-- The raffle may sell fewer tickets than the greatest count. -/
def Raffle.Bounded (r : Raffle) : Prop := LimitBounded r.options.maxTickets

/-- A ledger and the holdings of the buyers that account for a number of sold tickets. -/
structure Books (ledger : Ledger) (holding : Address → TicketCount) (sold : TicketCount) :
    Prop where
  consecutive : Ledger.Consecutive 0 ledger.entries sold.toNat
  holdings : ∀ buyer, ledger.ticketsOf buyer = (holding buyer).toNat

namespace Contract

/-- Within a limit below the greatest count nothing is clamped. -/
theorem add_lt_of_addClamped_le {a b most : TicketCount} (h : addClamped a b ≤ most)
    (hmost : most.toNat < UInt32.size - 1) : a.toNat + b.toNat < UInt32.size := by
  rw [UInt32.le_iff_toNat_le, addClamped_toNat] at h
  omega

theorem addClamped_eq {a b : TicketCount} (h : a.toNat + b.toNat < UInt32.size) :
    (addClamped a b).toNat = a.toNat + b.toNat := by
  rw [addClamped_toNat, Nat.min_eq_left (Nat.le_sub_one_of_lt h)]

end Contract

theorem Raffle.bounded_afterSale {r : Raffle} {now : Timestamp} {total : TicketCount} :
    (afterSale r now total).Bounded ↔ r.Bounded := by
  rw [Bounded, afterSale_maxTickets, Bounded]

namespace Contract.Sale

variable {s s' : Store} {now : Timestamp} {buyer : Address} {id : RaffleId} {count : TicketCount}
  {raffle : Raffle} {price : Coin}

/-- A bounded raffle has room for the tickets that it sells. -/
theorem fits (h : Sale s now buyer id count raffle price s') (hb : raffle.Bounded) :
    raffle.sold.toNat + count.toNat < UInt32.size := by
  obtain ⟨most, hmost, hlt⟩ := hb
  exact add_lt_of_addClamped_le (h.withinRaffle most hmost) hlt

end Contract.Sale

namespace Books

variable {ledger : Ledger} {holding : Address → TicketCount} {sold : TicketCount}

theorem nothing_sold : Books ∅ (fun _ => 0) 0 where
  consecutive := rfl
  holdings _ := rfl

/-- A buyer holds no more tickets than are sold. -/
theorem holding_le (h : Books ledger holding sold) (buyer : Address) :
    (holding buyer).toNat ≤ sold.toNat := by
  have hstop := h.consecutive.stop_eq
  have hle := Ledger.tickets_filter_le ledger.purchases fun p => p.buyer = buyer
  rw [← h.holdings buyer, Ledger.ticketsOf, hstop, Nat.zero_add]
  exact hle

/-- Nobody holds a ticket of which none is sold. -/
theorem holding_eq_zero (h : Books ledger holding 0) (buyer : Address) : holding buyer = 0 :=
  UInt32.toNat_inj.mp (Nat.le_zero.mp (h.holding_le buyer))

/-- Nobody has a ticket of which none is sold. -/
theorem ticketsOf_eq_zero (h : Books ledger holding 0) (buyer : Address) :
    ledger.ticketsOf buyer = 0 := by
  rw [h.holdings buyer, h.holding_eq_zero buyer, UInt32.toNat_zero]

/-- A sale of which nothing is clamped keeps the books in order. -/
theorem sell (h : Books ledger holding sold) (buyer : Address) {count : TicketCount}
    (hpos : count ≠ 0) (hlt : sold.toNat + count.toNat < UInt32.size) :
    Books (ledger.insert sold ⟨buyer, count⟩)
      (fun b => if b = buyer then addClamped (holding buyer) count else holding b)
      (addClamped sold count) where
  consecutive := by
    rw [h.consecutive.entries_insert, addClamped_eq hlt]
    exact h.consecutive.append rfl hpos
  holdings b := by
    have hle := h.holding_le b
    rw [h.consecutive.ticketsOf_insert, h.holdings b]
    by_cases hb : b = buyer
    · subst hb
      rw [if_pos rfl, if_pos rfl, addClamped_eq (by omega)]
    · rw [if_neg hb, if_neg (Ne.symm hb), Nat.add_zero]

end Books

namespace Store

/-- The books on a raffle are in order: while it does not exist, when it has sold nothing, and when
it may sell fewer tickets than the greatest count. Sales come after the start. -/
structure Accounted (now : Timestamp) (id : RaffleId) (s : Store) : Prop where
  absent : s.raffles.get? id = none → Books (s.ledger id) (s.holding · id) 0
  started : ∀ {r}, s.raffles.get? id = some r → r.sold ≠ 0 → r.options.start ≤ now
  books : ∀ {r}, s.raffles.get? id = some r → r.sold = 0 ∨ r.Bounded →
    Books (s.ledger id) (s.holding · id) r.sold

namespace Accounted

variable {s s' : Store} {now now' : Timestamp} {id : RaffleId} {r : Raffle}

theorem books_of_same {sold : TicketCount} (ledger : s'.ledger id = s.ledger id)
    (holding : ∀ buyer, s'.holding buyer id = s.holding buyer id)
    (h : Books (s.ledger id) (s.holding · id) sold) :
    Books (s'.ledger id) (s'.holding · id) sold := by
  rw [ledger, funext holding]
  exact h

theorem later (h : s.Accounted now id) (hle : now ≤ now') : s.Accounted now' id where
  absent := h.absent
  started hr hs := le_trans (h.started hr hs) hle
  books := h.books

theorem sold_eq_zero (h : s.Accounted now id) (hr : s.raffles.get? id = some r)
    (hs : now < r.options.start) : r.sold = 0 := by
  by_contra hz
  exact not_le.mpr hs (h.started hr hz)

theorem revise (h : s.Accounted now id) {r' : Raffle} (hr : s.raffles.get? id = some r)
    (hr' : s'.raffles.get? id = some r') (hrev : r.Revision s.config now r')
    (hbooks : ∀ {sold}, Books (s.ledger id) (s.holding · id) sold →
      Books (s'.ledger id) (s'.holding · id) sold) : s'.Accounted now id := by
  refine ⟨fun hnone => absurd (hr'.symm.trans hnone) (by simp), ?_, ?_⟩
  · intro r₁ hr₁ hs
    obtain rfl := Option.some.inj (hr'.symm.trans hr₁)
    rw [hrev.sold] at hs
    rcases hrev.options with ho | hlt
    · rw [ho]
      exact h.started hr hs
    · exact absurd (h.sold_eq_zero hr hlt) hs
  · intro r₁ hr₁ hb
    obtain rfl := Option.some.inj (hr'.symm.trans hr₁)
    rw [hrev.sold] at hb ⊢
    apply hbooks
    rcases hrev.options with ho | hlt
    · rw [Raffle.Bounded, ho] at hb
      exact h.books hr hb
    · exact h.books hr (.inl (h.sold_eq_zero hr hlt))

theorem sell (h : s.Accounted now id) {buyer : Address} {count : TicketCount} {price : Coin}
    (hsale : Sale s now buyer id count r price s') : s'.Accounted now id := by
  have hr' := hsale.record
  refine ⟨fun hnone => absurd (hr'.symm.trans hnone) (by simp), ?_, ?_⟩
  · intro r₁ hr₁ _
    obtain rfl := Option.some.inj (hr'.symm.trans hr₁)
    rw [afterSale_start]
    exact (Raffle.phase?_eq_started.mp hsale.started).2.1
  · intro r₁ hr₁ hb
    obtain rfl := Option.some.inj (hr'.symm.trans hr₁)
    rw [afterSale_sold] at hb ⊢
    have hbounded : r.Bounded := by
      rcases hb with hz | hb
      · exact absurd hz hsale.total_ne_zero
      · exact Raffle.bounded_afterSale.mp hb
    have hbooks := (h.books hsale.kept (.inr hbounded)).sell buyer hsale.positive
      (hsale.fits hbounded)
    rw [hsale.ledger, if_pos rfl]
    simpa only [hsale.holding, and_true] using hbooks

/-- Every change keeps the books on every raffle in order. -/
theorem change (h : s.Accounted now id) {t : Turn} {focus : Option RaffleId} (ht : t.now = now)
    (hc : Change s t focus s') : s'.Accounted now id := by
  subst ht
  cases hc.raffle id with
  | same raffle ledger holding =>
      exact ⟨fun hnone => books_of_same ledger holding (h.absent (raffle ▸ hnone)),
        fun hr => h.started (raffle ▸ hr),
        fun hr hb => books_of_same ledger holding (h.books (raffle ▸ hr) hb)⟩
  | @entered _ _ _ r' _ hnew raffle ledger holding =>
      have hsold : r'.sold = 0 := by rw [hnew.entered]
      refine ⟨fun hnone => absurd (raffle.symm.trans hnone) (by simp), ?_, ?_⟩
      · intro r hr hs
        obtain rfl := Option.some.inj (raffle.symm.trans hr)
        exact absurd hsold hs
      · intro r hr _
        obtain rfl := Option.some.inj (raffle.symm.trans hr)
        rw [hsold]
        exact books_of_same ledger holding (h.absent hnew.fresh)
  | revised kept hrev raffle ledger holding =>
      exact h.revise kept raffle hrev (books_of_same ledger holding)
  | sold hsale => exact h.sell hsale

end Accounted

/-- A purchase that is entered in the ledger of a bounded raffle, with the books in order. -/
structure Entered (now : Timestamp) (id : RaffleId) (slot : Slot) (p : Purchase) (s : Store) :
    Prop where
  accounted : s.Accounted now id
  bounded : ∃ r, s.raffles.get? id = some r ∧ r.Bounded
  entry : (s.ledger id).get? slot = some p

namespace Entered

variable {s s' : Store} {now : Timestamp} {id : RaffleId} {slot : Slot} {p : Purchase}

/-- An entered purchase ends at or below the number of sold tickets. -/
theorem le_sold (h : Entered now id slot p s) {r : Raffle} (hr : s.raffles.get? id = some r) :
    p.count ≠ 0 ∧ slot.toNat + p.count.toNat ≤ r.sold.toNat := by
  obtain ⟨r₀, hr₀, hb⟩ := h.bounded
  obtain rfl := Option.some.inj (hr.symm.trans hr₀)
  have hmem := (Table.mem_entries_iff _ _ _).mpr h.entry
  have hbooks := (h.accounted.books hr (.inr hb)).consecutive
  exact ⟨hbooks.positive hmem, (hbooks.bounds hmem).2⟩

theorem sold_ne_zero (h : Entered now id slot p s) {r : Raffle}
    (hr : s.raffles.get? id = some r) : r.sold ≠ 0 := by
  intro hz
  obtain ⟨hpos, hle⟩ := h.le_sold hr
  rw [hz, UInt32.toNat_zero] at hle
  exact hpos (UInt32.toNat_inj.mp (by rw [UInt32.toNat_zero]; omega))

/-- No change touches a purchase that is entered. -/
theorem change (h : Entered now id slot p s) {t : Turn} {focus : Option RaffleId}
    (ht : t.now = now) (hc : Change s t focus s') : Entered now id slot p s' := by
  have haccounted := h.accounted.change ht hc
  obtain ⟨r, hr, hb⟩ := h.bounded
  subst ht
  cases hc.raffle id with
  | same raffle ledger holding =>
      exact ⟨haccounted, ⟨r, by rw [raffle, hr], hb⟩, by rw [ledger, h.entry]⟩
  | entered hnew _ _ _ => exact absurd hr (hnew.ne_some r)
  | @revised r₀ r' kept hrev raffle ledger holding =>
      obtain rfl := Option.some.inj (hr.symm.trans kept)
      refine ⟨haccounted, ⟨r', raffle, ?_⟩, by rw [ledger, h.entry]⟩
      rcases hrev.options with ho | hlt
      · rw [Raffle.Bounded, ho]
        exact hb
      · exact absurd (h.accounted.sold_eq_zero hr hlt) (h.sold_ne_zero hr)
  | sold hsale =>
      obtain rfl := Option.some.inj (hr.symm.trans hsale.kept)
      obtain ⟨hpos, hle⟩ := h.le_sold hr
      have hne : slot ≠ r.sold := by
        rintro rfl
        exact hpos (UInt32.toNat_inj.mp (by rw [UInt32.toNat_zero]; omega))
      refine ⟨haccounted, ⟨_, hsale.record, Raffle.bounded_afterSale.mpr hb⟩, ?_⟩
      rw [hsale.ledger, if_pos rfl, Table.get?_insert, if_neg hne, h.entry]

end Entered

end Store

variable {s s' : Store} {now now' : Timestamp} {steps : List Step}

theorem Reachable.accounted (h : Reachable .forward now s) (id : RaffleId) :
    s.Accounted now id := by
  apply h.invariant (P := fun now s => s.Accounted now id)
  · intro now config caller request _
    exact ⟨fun _ => Books.nothing_sold, nofun, nofun⟩
  · intro now now' s hle hs
    exact hs.later hle
  · intro t s s' focus hs hc
    exact hs.change rfl hc

theorem Run.entered {id : RaffleId} {slot : Slot} {p : Purchase}
    (h : Run .forward now s steps now' s') (hs : s.Entered now id slot p) :
    s'.Entered now' id slot p := by
  refine h.keeps (P := fun now s => s.Entered now id slot p) ?_ ?_ hs
  · intro now now' s hle hs
    exact { hs with accounted := hs.accounted.later hle }
  · intro t s s' focus hs hc
    exact hs.change rfl hc

/-- The purchases of a bounded raffle divide its sold slots among themselves and come to what every
buyer holds. No later step changes a purchase, so a sold slot has the same owner for ever. -/
theorem ledger_partitions_sold_slots (h : Reachable .forward now s) {id : RaffleId} {r : Raffle}
    (hr : s.raffles.get? id = some r) (hb : r.Bounded) :
    (s.ledger id).Partitions r.sold.toNat ∧
      (∀ buyer, (s.ledger id).ticketsOf buyer = (s.holding buyer id).toNat) ∧
      ∀ {steps now' s'}, Run .forward now s steps now' s' →
        (∀ e ∈ (s.ledger id).entries, e ∈ (s'.ledger id).entries) ∧
        ∀ slot < r.sold, ∃ buyer, (s.ledger id).ownerOf? slot = some buyer ∧
          (s'.ledger id).ownerOf? slot = some buyer := by
  have haccounted := h.accounted id
  have hbooks := haccounted.books hr (.inr hb)
  refine ⟨hbooks.consecutive.partitions, hbooks.holdings, ?_⟩
  intro steps now' s' hrun
  have hkept : ∀ e ∈ (s.ledger id).entries, s'.Entered now' id e.1 e.2 := by
    intro e he
    exact hrun.entered ⟨haccounted, ⟨r, hr, hb⟩, (Table.mem_entries_iff _ _ _).mp he⟩
  refine ⟨fun e he => (Table.mem_entries_iff _ _ _).mpr (hkept e he).entry, ?_⟩
  intro slot hslot
  obtain ⟨e, he, hc⟩ :=
    hbooks.consecutive.exists_covers (Nat.zero_le _) (UInt32.lt_iff_toNat_lt.mp hslot)
  obtain ⟨r', hr', hb'⟩ := (hkept e he).bounded
  have hbooks' := (hkept e he).accounted.books hr' (.inr hb')
  have he' := (Table.mem_entries_iff _ _ _).mpr (hkept e he).entry
  refine ⟨e.2.buyer, ?_, ?_⟩
  · rw [Ledger.ownerOf?, hbooks.consecutive.floor?_eq he hc, Option.map_some]
  · rw [Ledger.ownerOf?, hbooks'.consecutive.floor?_eq he' hc, Option.map_some]

theorem sold_slots_of_sample : (Sample.sold.ledger 0).Partitions 2 ∧
    (∀ buyer, (Sample.sold.ledger 0).ticketsOf buyer = (Sample.sold.holding buyer 0).toNat) ∧
    ∀ slot < 2, ∃ buyer, (Sample.sold.ledger 0).ownerOf? slot = some buyer ∧
      ((Sample.sale.after Sample.sold).ledger 0).ownerOf? slot = some buyer := by
  obtain ⟨r, hr, hsold, hb⟩ : ∃ r, Sample.sold.raffles.get? 0 = some r ∧ r.sold = 2 ∧ r.Bounded :=
    ⟨_, rfl, rfl, _, rfl, by decide⟩
  obtain ⟨hpart, hholding, hrun⟩ := ledger_partitions_sold_slots Sample.sold_reachable hr hb
  rw [hsold] at hpart hrun
  exact ⟨hpart, hholding, (hrun (.turn Sample.sale .start (le_refl (⟨6⟩ : Timestamp)))).2⟩

end Tombola
