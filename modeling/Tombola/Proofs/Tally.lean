import Tombola.Proofs.Books

/-!
# Which purchases are counted in full

The number of sold tickets and the holding of a buyer are sums that stop at the greatest count, and
it is the stopped sums that are held against the limits. As long as the tickets sold with a purchase
can be counted this makes no difference. Beyond that a limit at the greatest count stops nothing,
and tickets are sold that are not counted.
-/

namespace Tombola

open Contract

/-- A limit allows a number of tickets, which is counted without bound. -/
def Allows (limit : Option TicketCount) (tickets : Nat) : Prop :=
  ∀ most, limit = some most → tickets ≤ most.toNat

/-- A limit does not stop a number of tickets: it allows them, or it is the greatest count. -/
def Passes (limit : Option TicketCount) (tickets : Nat) : Prop :=
  ∀ most, limit = some most → tickets ≤ most.toNat ∨ most.toNat = UInt32.size - 1

/-- Tickets that can be counted pass exactly the limits that allow them. -/
theorem passes_iff_allows {limit : Option TicketCount} {tickets : Nat}
    (h : tickets < UInt32.size) : Passes limit tickets ↔ Allows limit tickets := by
  constructor
  · intro hpasses most hmost
    rcases hpasses most hmost with hle | htop
    · exact hle
    · rw [htop]
      exact Nat.le_sub_one_of_lt h
  · intro hallows most hmost
    exact .inl (hallows most hmost)

/-- Tickets that can not be counted pass a limit only when it is the greatest count. -/
theorem passes_iff_of_size_le {limit : Option TicketCount} {tickets : Nat}
    (h : UInt32.size ≤ tickets) :
    Passes limit tickets ↔ ∀ most, limit = some most → most.toNat = UInt32.size - 1 := by
  apply forall₂_congr
  intro most _
  have := most.toNat_lt
  have hsize : UInt32.size = 4294967296 := rfl
  omega

/-- The books on a raffle are in order while it does not exist, and as long as its number of sold
tickets is below the greatest count. -/
structure Store.Counted (id : RaffleId) (s : Store) : Prop where
  absent : s.raffles.get? id = none → Books (s.ledger id) (s.holding · id) 0
  books : ∀ {r}, s.raffles.get? id = some r → r.sold.toNat < UInt32.size - 1 →
    Books (s.ledger id) (s.holding · id) r.sold

/-- The effect of a purchase of which every ticket is counted: the sold tickets and those of the
buyer become more by as many, and the purchase is entered at the first unsold slot, where there was
none. -/
structure Store.CountsInFull (s : Store) (buyer : Address) (id : RaffleId) (count : TicketCount)
    (r : Raffle) (s' : Store) (r' : Raffle) : Prop where
  sold : r'.sold.toNat = r.sold.toNat + count.toNat
  holding : (s'.holding buyer id).toNat = (s.holding buyer id).toNat + count.toNat
  fresh : (s.ledger id).get? r.sold = none
  entry : s'.ledger id = (s.ledger id).insert r.sold ⟨buyer, count⟩

variable {clock : Clock} {now : Timestamp} {s s' : Store} {t : Turn} {focus : Option RaffleId}
  {buyer : Address} {id : RaffleId} {count : TicketCount} {r r' : Raffle}

/-- The ledger has no entry at the first unsold slot. -/
theorem Books.fresh {ledger : Ledger} {holding : Address → TicketCount} {sold : TicketCount}
    (h : Books ledger holding sold) : ledger.get? sold = none := by
  rw [Option.eq_none_iff_forall_ne_some]
  intro p hp
  have hmem := (Table.mem_entries_iff _ _ _).mpr hp
  have hpos : p.count.toNat ≠ 0 := fun hz => h.consecutive.positive hmem (UInt32.toNat_inj.mp hz)
  have hend : sold.toNat + p.count.toNat ≤ sold.toNat := (h.consecutive.bounds hmem).2
  omega

namespace Contract

theorem addClamped_le_iff_passes {limit : Option TicketCount} {a b : TicketCount} :
    (∀ most, limit = some most → addClamped a b ≤ most) ↔ Passes limit (a.toNat + b.toNat) := by
  apply forall₂_congr
  intro most _
  have := most.toNat_lt
  have hsize : UInt32.size = 4294967296 := rfl
  rw [UInt32.le_iff_toNat_le, addClamped_toNat]
  omega

/-- A purchase is entered exactly when its sums pass both limits. -/
theorem enterPurchase_succeeds_iff :
    (∃ entered, enterPurchase s now buyer id r count = .ok entered) ↔
      Passes r.options.maxPerBuyer ((s.holding buyer id).toNat + count.toNat) ∧
      Passes r.options.maxTickets (r.sold.toNat + count.toNat) := by
  rw [← addClamped_le_iff_passes, ← addClamped_le_iff_passes]
  constructor
  · rintro ⟨⟨s', r'⟩, h⟩
    obtain ⟨hbuyer, hraffle, _⟩ := enterPurchase_eq_ok.mp h
    exact ⟨hbuyer, hraffle⟩
  · rintro ⟨hbuyer, hraffle⟩
    exact ⟨(_, _), enterPurchase_eq_ok.mpr ⟨hbuyer, hraffle, rfl, rfl⟩⟩

/-- With the books in order a purchase of tickets that can be counted is counted in full. -/
theorem enterPurchase_countsInFull (hbooks : Books (s.ledger id) (s.holding · id) r.sold)
    (hfits : r.sold.toNat + count.toNat < UInt32.size)
    (h : enterPurchase s now buyer id r count = .ok (s', r')) :
    s.CountsInFull buyer id count r s' r' := by
  obtain ⟨_, _, rfl, rfl⟩ := enterPurchase_eq_ok.mp h
  have hheld := hbooks.holding_le buyer
  refine ⟨?_, ?_, hbooks.fresh, ?_⟩
  · rw [afterSale_sold, addClamped_eq hfits]
  · rw [Store.holding_putRaffle, Store.holding_putHolding, if_pos ⟨rfl, rfl⟩,
      addClamped_eq (by omega)]
  · rw [Store.ledger_putRaffle, Store.ledger_putHolding, Store.ledger_putPurchase, if_pos rfl]

end Contract

namespace Store.Counted

/-- Every change keeps the books in order, whatever the clock does: a sale that leaves the number of
sold tickets below the greatest count has not been stopped there. -/
theorem change (h : s.Counted id) (hc : Change s t focus s') : s'.Counted id := by
  cases hc.raffle id with
  | same raffle ledger holding =>
      exact ⟨fun hnone => Accounted.books_of_same ledger holding (h.absent (raffle ▸ hnone)),
        fun hr hlt => Accounted.books_of_same ledger holding (h.books (raffle ▸ hr) hlt)⟩
  | @entered _ _ _ r _ hnew raffle ledger holding =>
      have hsold : r.sold = 0 := by rw [hnew.entered]
      refine ⟨fun hnone => absurd (raffle.symm.trans hnone) (by simp), ?_⟩
      intro r₁ hr₁ _
      obtain rfl := Option.some.inj (raffle.symm.trans hr₁)
      rw [hsold]
      exact Accounted.books_of_same ledger holding (h.absent hnew.fresh)
  | revised kept hrev raffle ledger holding =>
      refine ⟨fun hnone => absurd (raffle.symm.trans hnone) (by simp), ?_⟩
      intro r₁ hr₁ hlt
      obtain rfl := Option.some.inj (raffle.symm.trans hr₁)
      rw [hrev.sold] at hlt ⊢
      exact Accounted.books_of_same ledger holding (h.books kept hlt)
  | @sold buyer count r _ hsale _ =>
      refine ⟨fun hnone => absurd (hsale.record.symm.trans hnone) (by simp), ?_⟩
      intro r₁ hr₁ hlt
      obtain rfl := Option.some.inj (hsale.record.symm.trans hr₁)
      rw [afterSale_sold] at hlt ⊢
      have hsum : r.sold.toNat + count.toNat < UInt32.size - 1 := by
        rw [addClamped_toNat] at hlt
        omega
      have hbooks := (h.books hsale.kept (by omega)).sell buyer hsale.positive (by omega)
      rw [hsale.ledger, if_pos rfl]
      simpa only [hsale.holding, and_true] using hbooks

end Store.Counted

theorem Reachable.counted (h : Reachable clock now s) (id : RaffleId) : s.Counted id := by
  apply h.invariant (P := fun _ s => s.Counted id)
  · intro now config caller request _
    exact ⟨fun _ => Books.nothing_sold, nofun⟩
  · intro now now' s _ hs
    exact hs
  · intro t s s' focus hs hc
    exact hs.change hc

/-- A purchase for which the tickets can be counted finds the books in order. -/
theorem Reachable.books (h : Reachable clock now s) (hr : s.raffles.get? id = some r)
    (hcount : count ≠ 0) (hfits : r.sold.toNat + count.toNat < UInt32.size) :
    Books (s.ledger id) (s.holding · id) r.sold := by
  apply (h.counted id).books hr
  have hpos : count.toNat ≠ 0 := fun hz => hcount (UInt32.toNat_inj.mp hz)
  omega

/-- A purchase of at least one ticket that comes to be entered is accepted exactly when its sums
pass the limits, and then the sums stop at the greatest count. When all tickets sold with it can be
counted, it is accepted exactly when both limits allow it. When they can not, it is accepted all the
same as soon as the raffle's limit is the greatest count and the buyer's limit is passed. So an
accepted purchase is counted in full exactly when the tickets sold with it can be counted. -/
theorem purchase_counted_in_full_iff (h : Reachable clock now s)
    (hr : s.raffles.get? id = some r) (hcount : count ≠ 0) (time : Timestamp) (buyer : Address) :
    (r.sold.toNat + count.toNat < UInt32.size →
      ((∃ entered, enterPurchase s time buyer id r count = .ok entered) ↔
        Allows r.options.maxPerBuyer ((s.holding buyer id).toNat + count.toNat) ∧
        Allows r.options.maxTickets (r.sold.toNat + count.toNat))) ∧
    (UInt32.size ≤ r.sold.toNat + count.toNat →
      ((∃ entered, enterPurchase s time buyer id r count = .ok entered) ↔
        Passes r.options.maxPerBuyer ((s.holding buyer id).toNat + count.toNat) ∧
        ∀ most, r.options.maxTickets = some most → most.toNat = UInt32.size - 1)) ∧
    ∀ s' r', enterPurchase s time buyer id r count = .ok (s', r') →
      s'.raffles.get? id = some r' ∧
      r'.sold.toNat = min (r.sold.toNat + count.toNat) (UInt32.size - 1) ∧
      (s.CountsInFull buyer id count r s' r' ↔ r.sold.toNat + count.toNat < UInt32.size) := by
  refine ⟨?_, ?_, ?_⟩
  · intro hfits
    have hheld := (h.books hr hcount hfits).holding_le buyer
    rw [enterPurchase_succeeds_iff, passes_iff_allows hfits, passes_iff_allows (by omega)]
  · intro hexceeds
    rw [enterPurchase_succeeds_iff, passes_iff_of_size_le hexceeds]
  · intro s' r' henter
    obtain ⟨_, _, hr', hs'⟩ := enterPurchase_eq_ok.mp henter
    refine ⟨by rw [hs', Store.raffles_putRaffle_self],
      by rw [hr', afterSale_sold, addClamped_toNat], ?_⟩
    constructor
    · intro hfull
      rw [← hfull.sold]
      exact r'.sold.toNat_lt
    · intro hfits
      exact enterPurchase_countsInFull (h.books hr hcount hfits) hfits henter

namespace Sample

/-- A contract in which a raffle may sell as many tickets as can be counted. -/
def roomy : Store :=
  match setup .empty ⟨"owner", []⟩ { setting with maxTickets := some 4294967295 } with
  | .ok (s, _) => s
  | .error _ => .empty

/-- All tickets but five of a raffle are sold to one buyer. -/
def crowd : Turn :=
  .execute (env 6) ⟨"buyer", [coin 17179869160 "ustars"]⟩
    (.buy ⟨0, 4294967290, .coin (coin 17179869160 "ustars")⟩)

/-- Ten more tickets are asked for and paid. -/
def excess : Turn :=
  .execute (env 6) ⟨"rival", [coin 40 "ustars"]⟩ (.buy ⟨0, 10, .coin (coin 40 "ustars")⟩)

def crowded : Store := crowd.after (creation.after roomy)

theorem crowded_reachable : Reachable .forward ⟨6⟩ crowded :=
  ⟨⟨"owner", []⟩, { setting with maxTickets := some 4294967295 }, roomy, _, ⟨5⟩, _, rfl,
    .turn crowd (.turn creation .start (by decide : (⟨5⟩ : Timestamp) ≤ ⟨5⟩))
      (by decide : (⟨5⟩ : Timestamp) ≤ ⟨6⟩)⟩

end Sample

/-- With five tickets left the rival buys ten and pays for ten. The purchase is entered, and five of
its tickets are not counted. -/
theorem excess_of_sample_not_counted : ∃ r r', Sample.crowded.raffles.get? 0 = some r ∧
    r.sold = 4294967290 ∧
    enterPurchase Sample.crowded ⟨6⟩ "rival" 0 r 10 =
      .ok (Sample.excess.after Sample.crowded, r') ∧
    (Sample.excess.response? Sample.crowded).isSome ∧ r'.sold = 4294967295 ∧
    ¬Sample.crowded.CountsInFull "rival" 0 10 r (Sample.excess.after Sample.crowded) r' := by
  obtain ⟨r, r', hr, hsold, henter⟩ : ∃ r r', Sample.crowded.raffles.get? 0 = some r ∧
      r.sold = 4294967290 ∧ enterPurchase Sample.crowded ⟨6⟩ "rival" 0 r 10 =
        .ok (Sample.excess.after Sample.crowded, r') := ⟨_, _, rfl, rfl, rfl⟩
  obtain ⟨_, _, heffect⟩ :=
    purchase_counted_in_full_iff Sample.crowded_reachable hr (by decide : (10 : UInt32) ≠ 0) ⟨6⟩
      "rival"
  obtain ⟨_, htotal, hfull⟩ := heffect _ r' henter
  refine ⟨r, r', hr, hsold, henter, by decide, ?_, ?_⟩
  · rw [hsold] at htotal
    exact UInt32.toNat_inj.mp htotal
  · rw [hfull, hsold]
    decide

end Tombola
