import Tombola.Proofs.Winner

/-!
# The draw is fair to every ticket

The oracle's randomness is one of as many numbers as there are texts of thirty-two bytes, and the
slot drawn is what the number leaves on division by the tickets sold. Each slot is left by as many
numbers as each other, up to one. A buyer wins with the randomness that draws one of the buyer's
slots, and the ledger gives every buyer as many of them as the buyer holds tickets.
-/

namespace Tombola

open Contract

/-! ## Bytes and numbers -/

namespace Entry

theorem length_bigEndian (width n : Nat) : (bigEndian width n).length = width := by
  induction width generalizing n with
  | zero => rfl
  | succ width ih => rw [bigEndian, List.length_append, ih, List.length_singleton]

/-- A number that fits is read back from its bytes. -/
theorem ofBigEndian_bigEndian {width n : Nat} (h : n < 256 ^ width) :
    ofBigEndian (bigEndian width n) = n := by
  induction width generalizing n with
  | zero => exact (Nat.lt_one_iff.mp h).symm
  | succ width ih =>
      have hhigh : n / 256 < 256 ^ width := by
        rw [Nat.pow_succ'] at h
        exact Nat.div_lt_of_lt_mul h
      calc
        ofBigEndian (bigEndian (width + 1) n)
          = 256 * (n / 256) + (UInt8.ofNat n).toNat := by
            rw [bigEndian, ofBigEndian_append, ih hhigh]
        _ = n := Nat.div_add_mod n 256

/-- Bytes are written again by the number that they are read as. -/
theorem bigEndian_ofBigEndian (bytes : Bytes) :
    bigEndian bytes.length (ofBigEndian bytes) = bytes := by
  induction bytes using List.reverseRecOn with
  | nil => rfl
  | append_singleton bytes b ih =>
      have hlow := b.toNat_lt
      have hdiv : (256 * ofBigEndian bytes + b.toNat) / 256 = ofBigEndian bytes := by omega
      have hmod : UInt8.ofNat (256 * ofBigEndian bytes + b.toNat) = b := by
        apply UInt8.toNat_inj.mp
        rw [UInt8.toNat_ofNat']
        omega
      rw [List.length_append, List.length_singleton, bigEndian, ofBigEndian_append, hdiv, hmod, ih]

theorem ofBigEndian_lt (bytes : Bytes) : ofBigEndian bytes < 256 ^ bytes.length := by
  induction bytes using List.reverseRecOn with
  | nil => exact Nat.one_pos
  | append_singleton bytes b ih =>
      have hlow := b.toNat_lt
      rw [ofBigEndian_append, List.length_append, List.length_singleton, Nat.pow_succ']
      omega

/-- As many texts of bytes are read as a number of some kind as there are such numbers. -/
theorem exists_card_bytes (width : Nat) (p : Nat → Prop) [DecidablePred p] :
    ∃ texts : Finset Bytes,
      (∀ bytes, bytes ∈ texts ↔ bytes.length = width ∧ p (ofBigEndian bytes)) ∧
      texts.card = ((Finset.range (256 ^ width)).filter p).card := by
  refine ⟨((Finset.range (256 ^ width)).filter p).image (bigEndian width), ?_, ?_⟩
  · intro bytes
    simp only [Finset.mem_image, Finset.mem_filter, Finset.mem_range]
    constructor
    · rintro ⟨n, ⟨hn, hp⟩, rfl⟩
      rw [ofBigEndian_bigEndian hn]
      exact ⟨length_bigEndian width n, hp⟩
    · rintro ⟨rfl, hp⟩
      exact ⟨ofBigEndian bytes, ⟨ofBigEndian_lt bytes, hp⟩, bigEndian_ofBigEndian bytes⟩
  · apply Finset.card_image_of_injOn
    intro m hm n hn heq
    have hm := Finset.mem_range.mp (Finset.mem_filter.mp hm).1
    have hn := Finset.mem_range.mp (Finset.mem_filter.mp hn).1
    rw [← ofBigEndian_bigEndian hm, ← ofBigEndian_bigEndian hn]
    exact congrArg ofBigEndian heq

end Entry

/-! ## Numbers and slots -/

/-- Division leaves each remainder for as many numbers as each other, up to one. -/
theorem card_remainder (bound : Nat) {sold slot : Nat} (h : slot < sold) :
    bound / sold ≤ ((Finset.range bound).filter fun n => n % sold = slot).card ∧
      ((Finset.range bound).filter fun n => n % sold = slot).card ≤ bound ⌈/⌉ sold := by
  have hpos : 0 < sold := Nat.zero_lt_of_lt h
  have hcard : ((Finset.range bound).filter fun n => n % sold = slot).card =
      bound / sold + if slot < bound % sold then 1 else 0 := by
    have hcount := Nat.count_modEq_card bound hpos slot
    rw [Nat.mod_eq_of_lt h] at hcount
    rw [← hcount, Nat.count_eq_card_filter_range]
    simp only [Nat.ModEq, Nat.mod_eq_of_lt h]
  have hdivision := Nat.div_add_mod bound sold
  rw [hcard, Nat.ceilDiv_eq_add_pred_div]
  refine ⟨Nat.le_add_right _ _, (Nat.le_div_iff_mul_le hpos).mpr ?_⟩
  rw [Nat.add_mul, Nat.mul_comm (bound / sold)]
  split <;> omega

/-- So a set of slots is drawn in proportion to its size, up to one number for each slot. -/
theorem card_remainders (bound : Nat) {sold : Nat} {slots : Finset Nat}
    (h : ∀ slot ∈ slots, slot < sold) :
    slots.card * (bound / sold) ≤ ((Finset.range bound).filter fun n => n % sold ∈ slots).card ∧
      ((Finset.range bound).filter fun n => n % sold ∈ slots).card ≤
        slots.card * (bound ⌈/⌉ sold) := by
  have hsum : ((Finset.range bound).filter fun n => n % sold ∈ slots).card =
      ∑ slot ∈ slots, ((Finset.range bound).filter fun n => n % sold = slot).card := by
    rw [Finset.card_eq_sum_card_fiberwise (f := (· % sold)) (t := slots)]
    · apply Finset.sum_congr rfl
      intro slot hslot
      rw [Finset.filter_filter]
      congr 1
      apply Finset.filter_congr
      intro n _
      exact ⟨And.right, fun h => ⟨h ▸ hslot, h⟩⟩
    · intro n hn
      exact (Finset.mem_filter.mp hn).2
  rw [hsum]
  constructor
  · apply Finset.card_nsmul_le_sum
    intro slot hslot
    exact (card_remainder bound (h slot hslot)).1
  · apply Finset.sum_le_card_nsmul
    intro slot hslot
    exact (card_remainder bound (h slot hslot)).2

namespace Ledger

/-- The slots that a buyer's purchases take. -/
def slotsOf (l : Ledger) (buyer : Address) : List Nat :=
  (l.entries.filter fun e => e.2.buyer = buyer).flatMap fun e =>
    List.range' e.1.toNat e.2.count.toNat

variable {l : Ledger} {sold : Nat}

theorem mem_slotsOf {buyer : Address} {n : Nat} :
    n ∈ l.slotsOf buyer ↔ ∃ e ∈ l.entries, e.2.buyer = buyer ∧ Covers e n := by
  simp [slotsOf, Covers, and_assoc]

theorem length_slotsOf (l : Ledger) (buyer : Address) :
    (l.slotsOf buyer).length = l.ticketsOf buyer := by
  simp [slotsOf, ticketsOf, tickets, purchases, List.filter_map, List.length_flatMap,
    Function.comp_def]

/-- Nobody has a slot twice in a ledger that is in order. -/
theorem Consecutive.nodup_slotsOf (h : Consecutive 0 l.entries sold) (buyer : Address) :
    (l.slotsOf buyer).Nodup := by
  rw [slotsOf, List.nodup_flatMap]
  refine ⟨fun e _ => List.nodup_range', ?_⟩
  apply (h.disjoint.filter _).imp
  intro a b hab
  simp only [Function.onFun, List.disjoint_left, List.mem_range'_1]
  omega

end Ledger

/-! ## Who wins -/

variable {now : Timestamp} {s s' : Store} {id : RaffleId} {r : Raffle} {sold : TicketCount}
  {steps : List Step}

/-- When tickets are sold, every randomness of the right length draws the buyer of a purchase. -/
theorem exists_winner (hbooks : Ledger.Consecutive 0 (s.ledger id).entries sold.toNat)
    (hsold : sold ≠ 0) {bytes : Bytes} (hlength : bytes.length = Refusal.randomnessBytes) :
    ∃ e ∈ (s.ledger id).entries, Ledger.Covers e (drawnSlot bytes sold) ∧
      pickWinner s id bytes sold = .ok (some e.2.buyer) := by
  obtain ⟨e, he, hcovers⟩ := hbooks.exists_covers (Nat.zero_le _) (drawnSlot_lt bytes hsold)
  refine ⟨e, he, hcovers, (pickWinner_eq_ok hsold).mpr ⟨hlength, e.2.buyer, ?_, rfl⟩⟩
  rw [Ledger.ownerOf?, floor?_drawnSlot hsold hbooks he hcovers, Option.map_some]

/-- A buyer wins with the randomness that draws one of the buyer's slots. -/
theorem pickWinner_eq_iff (hbooks : Ledger.Consecutive 0 (s.ledger id).entries sold.toNat)
    (hsold : sold ≠ 0) {bytes : Bytes} (hlength : bytes.length = Refusal.randomnessBytes)
    (buyer : Address) : pickWinner s id bytes sold = .ok (some buyer) ↔
      ofBigEndian bytes % sold.toNat ∈ (s.ledger id).slotsOf buyer := by
  rw [ofBigEndian_eq_ofDigits, Ledger.mem_slotsOf]
  constructor
  · intro hpick
    obtain ⟨e, he, hcovers, _, hwinner⟩ := winner_eq_buyer hsold hbooks hpick
    exact ⟨e, he, (Option.some.inj hwinner).symm, hcovers⟩
  · rintro ⟨e, he, rfl, hcovers⟩
    obtain ⟨e₀, _, hcovers₀, hpick⟩ := exists_winner hbooks hsold hlength
    obtain ⟨e₁, _, _, hunique, hwinner⟩ := winner_eq_buyer hsold hbooks hpick
    rw [hpick, hwinner, hunique e he hcovers]

/-- A buyer of so many of the tickets sold wins with about that share of all randomness. -/
theorem card_winning (hbooks : Books (s.ledger id) (s.holding · id) sold) (hsold : sold ≠ 0)
    (buyer : Address) : ∃ draws : Finset Bytes,
      (∀ bytes, bytes ∈ draws ↔ bytes.length = Refusal.randomnessBytes ∧
        pickWinner s id bytes sold = .ok (some buyer)) ∧
      (s.holding buyer id).toNat * (256 ^ Refusal.randomnessBytes / sold.toNat) ≤ draws.card ∧
      draws.card ≤
        (s.holding buyer id).toNat * (256 ^ Refusal.randomnessBytes ⌈/⌉ sold.toNat) := by
  have hnodup := hbooks.consecutive.nodup_slotsOf buyer
  obtain ⟨draws, hdraws, hcard⟩ := Entry.exists_card_bytes Refusal.randomnessBytes fun n =>
    n % sold.toNat ∈ ((s.ledger id).slotsOf buyer).toFinset
  have hbelow : ∀ slot ∈ ((s.ledger id).slotsOf buyer).toFinset, slot < sold.toNat := by
    intro slot hslot
    obtain ⟨e, he, _, hcovers⟩ := Ledger.mem_slotsOf.mp (List.mem_toFinset.mp hslot)
    exact lt_of_lt_of_le hcovers.2 (hbooks.consecutive.bounds he).2
  have hslots : ((s.ledger id).slotsOf buyer).toFinset.card = (s.holding buyer id).toNat := by
    rw [List.toFinset_card_of_nodup hnodup, Ledger.length_slotsOf, hbooks.holdings]
  refine ⟨draws, ?_, ?_⟩
  · intro bytes
    rw [hdraws, List.mem_toFinset]
    exact and_congr_right fun hlength =>
      (pickWinner_eq_iff hbooks.consecutive hsold hlength buyer).symm
  · rw [hcard, ← hslots]
    exact card_remainders _ hbelow

/-! ## Who is in the ledger -/

/-- The step is a purchase that went through, of so many tickets of the raffle by the buyer. -/
def Step.Buys (step : Step) (buyer : Address) (id : RaffleId) (count : TicketCount) : Prop :=
  ∃ env funds payment response,
    step = ⟨.execute env ⟨buyer, funds⟩ (.buy ⟨id, count, payment⟩), some response⟩

/-- Every purchase in the ledger was made by a step. -/
def Store.Traced (steps : List Step) (id : RaffleId) (s : Store) : Prop :=
  ∀ slot p, (s.ledger id).get? slot = some p → ∃ step ∈ steps, step.Buys p.buyer id p.count

theorem Store.Traced.cons (h : s.Traced steps id) (step : Step)
    (hledger : s'.ledger id = s.ledger id) : s'.Traced (step :: steps) id := by
  intro slot p hp
  obtain ⟨earlier, hmem, hbuys⟩ := h slot p (hledger ▸ hp)
  exact ⟨earlier, List.mem_cons_of_mem _ hmem, hbuys⟩

/-- A turn that sells tickets of the raffle enters its own purchase. -/
theorem Store.Traced.sell (h : s.Traced steps id) {t : Turn} {buyer : Address}
    {response : Response} (hout : t.outcome s = .ok (s', response))
    (hbuys : t.buys? = some (buyer, id)) : s'.Traced (⟨t, some response⟩ :: steps) id := by
  cases t with
  | execute env caller request =>
      cases request with
      | buy b =>
          obtain ⟨rfl, rfl⟩ := Prod.mk.inj (Option.some.inj hbuys)
          obtain ⟨raffle, price, hsale, _⟩ := buy_eq_ok hout
          intro slot p hp
          rw [hsale.ledger, if_pos rfl, Table.get?_insert] at hp
          split at hp
          · obtain rfl := Option.some.inj hp
            exact ⟨_, List.mem_cons_self, env, caller.funds, b.payment, response, rfl⟩
          · obtain ⟨step, hmem, hstep⟩ := h slot p hp
            exact ⟨step, List.mem_cons_of_mem _ hmem, hstep⟩
      | _ => cases hbuys
  | govern _ _ => cases hbuys
  | migrate _ => cases hbuys

theorem Recorded.traced {clock : Clock} (h : Recorded clock steps now s) (id : RaffleId) :
    s.Traced steps id := by
  apply h.invariant (P := fun steps _ s => s.Traced steps id)
  · intro now config _ _ _ slot p
    nofun
  · intro steps now now' s _ hs
    exact hs
  · intro steps now t s s' response _ _ hs hout
    obtain ⟨focus, hc⟩ := Turn.change hout
    cases hc.raffle id with
    | same _ ledger _ => exact hs.cons _ ledger
    | entered _ _ ledger _ _ => exact hs.cons _ ledger
    | revised _ _ _ ledger _ => exact hs.cons _ ledger
    | sold _ turn => exact hs.sell hout turn
  · intro steps t s hs
    exact hs.cons _ rfl

/-- Every thirty-two bytes draw a winner among those that have bought tickets of a raffle that has
sold some, and may sell fewer than the greatest count. Whoever holds `k` of `n` tickets sold wins
with at least `k` times the whole part of `2 ^ 256 / n` of them, and with at most `k` times that
number rounded up. -/
theorem draw_fair_per_ticket (h : Recorded .forward steps now s)
    (hr : s.raffles.get? id = some r) (hb : r.Bounded) (hsold : r.sold ≠ 0) :
    (∀ bytes : Bytes, bytes.length = 32 → ∃ buyer,
      pickWinner s id bytes r.sold = .ok (some buyer) ∧ s.holding buyer id ≠ 0 ∧
      ∃ step ∈ steps, ∃ count, count ≠ 0 ∧ step.Buys buyer id count) ∧
    ∀ buyer, ∃ draws : Finset Bytes,
      (∀ bytes, bytes ∈ draws ↔
        bytes.length = 32 ∧ pickWinner s id bytes r.sold = .ok (some buyer)) ∧
      (s.holding buyer id).toNat * (2 ^ 256 / r.sold.toNat) ≤ draws.card ∧
      draws.card ≤ (s.holding buyer id).toNat * (2 ^ 256 ⌈/⌉ r.sold.toNat) := by
  have hbooks := (h.reachable.accounted id).books hr (.inr hb)
  constructor
  · intro bytes hlength
    obtain ⟨⟨slot, p⟩, he, hcovers, hpick⟩ := exists_winner hbooks.consecutive hsold hlength
    obtain ⟨step, hmem, hbuys⟩ := h.traced id slot p ((Table.mem_entries_iff _ _ _).mp he)
    refine ⟨p.buyer, hpick, ?_, step, hmem, p.count, hbooks.consecutive.positive he, hbuys⟩
    intro hzero
    have hslots : (s.ledger id).slotsOf p.buyer = [] := by
      rw [← List.length_eq_zero_iff, Ledger.length_slotsOf, hbooks.holdings, hzero]
      rfl
    have hmem := Ledger.mem_slotsOf.mpr ⟨_, he, rfl, hcovers⟩
    rw [hslots] at hmem
    cases hmem
  · intro buyer
    have hwidth : (256 : Nat) ^ Refusal.randomnessBytes = 2 ^ 256 :=
      (Nat.pow_mul 2 8 Refusal.randomnessBytes).symm
    have hcard := card_winning hbooks hsold buyer
    rwa [hwidth] at hcard

/-- A second buyer takes one more ticket in the small run. -/
def Sample.rivalSale : Turn :=
  .execute (env 7) ⟨"rival", [coin 4 "ustars"]⟩ (.buy ⟨0, 1, .coin (coin 4 "ustars")⟩)

/-- The buyer of two of three tickets wins with about two thirds of all randomness. -/
theorem draw_fair_of_sample : ∃ draws : Finset Bytes,
    (∀ bytes, bytes ∈ draws ↔ bytes.length = 32 ∧
      pickWinner (Sample.rivalSale.after Sample.sold) 0 bytes 3 = .ok (some "buyer")) ∧
    2 * (2 ^ 256 / 3) ≤ draws.card ∧ draws.card ≤ 2 * (2 ^ 256 ⌈/⌉ 3) := by
  obtain ⟨r, hr, hb, hsold, hholding⟩ : ∃ r,
      (Sample.rivalSale.after Sample.sold).raffles.get? 0 = some r ∧ r.Bounded ∧ r.sold = 3 ∧
      (Sample.rivalSale.after Sample.sold).holding "buyer" 0 = 2 :=
    ⟨_, rfl, ⟨_, rfl, by decide⟩, rfl, rfl⟩
  have hrecorded := Sample.sold_recorded.turn Sample.rivalSale
    (by decide : (⟨6⟩ : Timestamp) ≤ ⟨7⟩)
  have hdraws := (draw_fair_per_ticket hrecorded hr hb (by rw [hsold]; decide)).2 "buyer"
  rw [hsold, hholding] at hdraws
  exact hdraws

end Tombola
