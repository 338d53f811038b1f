import Tombola.Proofs.Escrow
import Tombola.Proofs.Settlement
import Tombola.Proofs.WellFormed

/-!
# Which attached coins are accounted for

Coins can be attached to every request. A step adds to what the contract holds: the prizes of a
raffle that is entered, the price of tickets that are sold. It releases what was held when it
settles a raffle. Attached coins are accounted for when they make up the difference between this and
what the messages send. That is so for the requests that take a payment, unless the number of sold
tickets is clamped. The other requests do not look at what is attached, so it stays behind.
-/

namespace Tombola

open Contract

/-- What a raffle adds to the coins held: the prizes of a raffle that was not there before, the
price of the tickets sold of one that was. -/
def Raffle.gained (r : Raffle) (before : Option Raffle) (d : Denom) : Nat :=
  match before with
  | none => Asset.total r.prizes d
  | some r₀ => r.price.worth d * (r.sold.toNat - r₀.sold.toNat)

/-- What a settled raffle pays out: its prizes, and the price of every purchase in its ledger when
it is cancelled, of every sold ticket when it is claimed. -/
def Raffle.payout (r : Raffle) (ledger : Ledger) (d : Denom) : Nat :=
  Asset.total r.prizes d + r.price.worth d *
    if r.cancelled then Ledger.tickets ledger.purchases else r.sold.toNat

/-- What a raffle releases of the coins held, when it is settled now and was not before. -/
def Raffle.released (r : Raffle) (ledger : Ledger) (before : Option Raffle) (d : Denom) : Nat :=
  match before with
  | none => 0
  | some r₀ =>
    if (r.cancelled || r.claimed) && !(r₀.cancelled || r₀.claimed) then r.payout ledger d else 0

namespace Store

/-- The sum of a measure over the raffles of a store, each beside its record in the store before. -/
def sumOver (s s' : Store) (f : RaffleId → Option Raffle → Raffle → Nat) : Nat :=
  (s'.raffles.entries.map fun e => f e.1 (s.raffles.get? e.1) e.2).sum

/-- What a step from one store to another adds to the coins held. -/
def gained (s s' : Store) (d : Denom) : Nat :=
  s.sumOver s' fun _ before r => r.gained before d

/-- What a step from one store to another releases of the coins held. -/
def released (s s' : Store) (d : Denom) : Nat :=
  s.sumOver s' fun id before r => r.released (s'.ledger id) before d

end Store

/-- The attached coins and what is released are what the messages send and what is added to the
coins held. -/
def AccountedFor (funds : List Coin) (s s' : Store) (response : Response) : Prop :=
  ∀ d, Coin.total funds d + s.released s' d = Message.total response.messages d + s.gained s' d

/-- The turn with other coins attached. -/
def Turn.attaching (t : Turn) (funds : List Coin) : Turn :=
  match t with
  | .execute env caller request => .execute env { caller with funds } request
  | t => t

/-- Attached coins stay behind: those that come with a request that does not take a payment, and a
part of those that pay for more tickets than can be counted. -/
inductive Turn.Strands (s : Store) (t : Turn) : Prop
  | unasked {c : Coin} (asks : t.takesPayment = false) (attached : c ∈ t.funds)
      (positive : c.amount.isZero = false)
  | clamped {env : Surroundings} {caller : Caller} {request : BuyRequest} {r : Raffle}
      (turn : t = .execute env caller (.buy request))
      (kept : s.raffles.get? request.raffle = some r)
      (exceeds : UInt32.size ≤ r.sold.toNat + request.count.toNat)

theorem Coin.total_eq_zero_iff {cs : List Coin} :
    (∀ d, Coin.total cs d = 0) ↔ ∀ c ∈ cs, c.amount.isZero = true := by
  constructor
  · intro h c hc
    have hle : c.worth c.denom ≤ Coin.total cs c.denom :=
      List.le_sum_of_mem (List.mem_map_of_mem hc)
    rw [h, Coin.worth, if_pos rfl] at hle
    exact Amount.isZero_iff.mpr (Nat.le_zero.mp hle)
  · intro h d
    apply List.sum_eq_zero
    intro n hn
    obtain ⟨c, hc, rfl⟩ := List.mem_map.mp hn
    exact Coin.worth_of_isZero (h c hc) d

variable {clock : Clock} {now : Timestamp} {s s' : Store} {t : Turn} {focus : Option RaffleId}
  {id : RaffleId} {r r' : Raffle} {response : Response} {d : Denom}

namespace Store

variable {f : RaffleId → Option Raffle → Raffle → Nat}

theorem sumOver_eq_zero (h : ∀ id r, s'.raffles.get? id = some r → f id (s.raffles.get? id) r = 0) :
    s.sumOver s' f = 0 := by
  apply List.sum_eq_zero
  intro n hn
  obtain ⟨e, he, rfl⟩ := List.mem_map.mp hn
  exact h e.1 e.2 ((Table.mem_entries_iff _ _ _).mp he)

/-- A measure of what has changed is that of the raffle that a change is about. -/
theorem sumOver_of_change (hc : Change s t (some id) s') (hr : s'.raffles.get? id = some r)
    (hsame : ∀ id r, f id (some r) r = 0) : s.sumOver s' f = f id (s.raffles.get? id) r := by
  apply Table.sum_entries_of_focus hr fun id r => f id (s.raffles.get? id) r
  intro other r' hr' hne
  have hagree := (hc.agree fun h => hne (Option.some.inj h).symm).raffle
  rw [← hagree, hr']
  exact hsame other r'

end Store

namespace Raffle

theorem gained_self (r : Raffle) (d : Denom) : r.gained (some r) d = 0 := by
  rw [gained, Nat.sub_self, Nat.mul_zero]

theorem released_self (r : Raffle) (ledger : Ledger) (d : Denom) :
    r.released ledger (some r) d = 0 := by
  rw [released, Bool.and_not_self, if_neg Bool.false_ne_true]

theorem released_of_unsettled (h : r.Unsettled) (ledger : Ledger) (before : Option Raffle)
    (d : Denom) : r.released ledger before d = 0 := by
  cases before with
  | none => rfl
  | some r₀ => simp [released, h.1, h.2]

theorem released_of_settled {r₀ : Raffle} (h : ¬r.Unsettled) (h₀ : r₀.Unsettled) (ledger : Ledger)
    (d : Denom) : r.released ledger (some r₀) d = r.payout ledger d := by
  have hsettled : (r.cancelled || r.claimed) = true := by
    by_contra hopen
    exact h (by simpa [Raffle.Unsettled] using hopen)
  rw [released, hsettled, h₀.1, h₀.2]
  rfl

end Raffle

/-! ## What a turn adds and releases -/

/-- Only a creation and a sale add to the coins held. -/
theorem Change.gained_eq_zero (hc : Change s t focus s') (hnew : t.creates = false)
    (hbuys : t.buys? = none) (d : Denom) : s.gained s' d = 0 := by
  apply Store.sumOver_eq_zero
  intro id r hr
  cases hc.raffle id with
  | same raffle _ _ =>
      rw [← raffle, hr]
      exact r.gained_self d
  | entered _ _ _ _ turn =>
      rw [hnew] at turn
      cases turn
  | revised kept hrev raffle _ _ =>
      obtain rfl := Option.some.inj (raffle.symm.trans hr)
      rw [kept, Raffle.gained, hrev.sold, Nat.sub_self, Nat.mul_zero]
  | sold _ turn =>
      rw [hbuys] at turn
      cases turn

/-- Only a turn that settles a raffle releases coins. -/
theorem Change.released_eq_zero (hc : Change s t focus s') (ht : t.settles? = none) (d : Denom) :
    s.released s' d = 0 := by
  apply Store.sumOver_eq_zero
  intro id r hr
  cases hr₀ : s.raffles.get? id with
  | none => rfl
  | some r₀ =>
      by_cases hopen : r₀.Unsettled
      · have hunsettled : r.Unsettled := by
          apply hc.stays_unsettled (by simp [ht]) _ hr
          intro r₁ hr₁
          obtain rfl := Option.some.inj (hr₀.symm.trans hr₁)
          exact hopen
        exact Raffle.released_of_unsettled hunsettled _ _ d
      · have hkept := (hc.keeps_settled hr₀ hopen).1
        obtain rfl := Option.some.inj (hkept.symm.trans hr)
        exact r₀.released_self _ d

/-- What a settled raffle pays out leaves with the messages. -/
theorem Step.HandsOut.total (h : Step.HandsOut s id r ⟨t, some response⟩) (d : Denom) :
    Message.total response.messages d = r.payout (s.ledger id) d := by
  cases h with
  | cancel flags refund messages =>
      rw [messages, Message.total_append, prizeMessages, total_transfers, total_refunds refund,
        Raffle.payout, if_pos flags.1]
  | claim flags proceed messages =>
      rw [messages, Message.total_append, prizeMessages, total_transfers, total_proceeds proceed,
        Raffle.payout, flags.1, if_neg Bool.false_ne_true]

theorem Turn.settling (ht : t.settles? = some id) (hout : t.outcome s = .ok (s', response)) :
    Change s t (some id) s' := by
  cases t with
  | execute env caller request =>
      cases request with
      | cancel id =>
          obtain rfl := Option.some.inj ht
          obtain ⟨_, _, hcancel, _⟩ := cancel_eq_ok hout
          exact .cancellation hcancel rfl
      | claim id =>
          obtain rfl := Option.some.inj ht
          obtain ⟨_, _, _, hclaim, _⟩ := claim_eq_ok hout
          exact .claim hclaim rfl
      | _ => cases ht
  | govern _ _ => cases ht
  | migrate _ => cases ht

/-- What a turn that settles a raffle releases leaves with its messages. -/
theorem Turn.released_of_settles (ht : t.settles? = some id)
    (hout : t.outcome s = .ok (s', response)) (d : Denom) :
    s.released s' d = Message.total response.messages d := by
  obtain ⟨⟨r₀, hr₀, hopen⟩, r, hr, hhands⟩ := Turn.hands_out ht hout
  calc
    s.released s' d = r.released (s'.ledger id) (s.raffles.get? id) d :=
      Store.sumOver_of_change (Turn.settling ht hout) hr fun _ r => r.released_self _ d
    _ = r.payout (s'.ledger id) d := by
      rw [hr₀]
      exact Raffle.released_of_settled hhands.not_unsettled hopen _ d
    _ = Message.total response.messages d := (hhands.total d).symm

/-- A raffle that is entered adds its prizes to the coins held. -/
theorem Contract.Creation.gained {config : Config} {request : CreateRequest} {owner : Address}
    {entered : Store} (h : Creation s now config request owner id r entered)
    (hc : Change s t (some id) s') (hr : s'.raffles.get? id = some r) (d : Denom) :
    s.gained s' d = Asset.total request.prizes d := by
  calc
    s.gained s' d = r.gained (s.raffles.get? id) d :=
      Store.sumOver_of_change hc hr fun _ r => r.gained_self d
    _ = Asset.total request.prizes d := by
      rw [h.fresh, h.entered]
      rfl

/-- A sale adds the price of the tickets by which the number of sold tickets goes up. -/
theorem Contract.Sale.gained {buyer : Address} {count : TicketCount} {price : Coin}
    (h : Sale s t.now buyer id count r price s') (hbuys : t.buys? = some (buyer, id)) (d : Denom) :
    s.gained s' d = price.worth d * ((addClamped r.sold count).toNat - r.sold.toNat) := by
  calc
    s.gained s' d = (afterSale r t.now (addClamped r.sold count)).gained (s.raffles.get? id) d :=
      Store.sumOver_of_change (.sale h hbuys) h.record fun _ r => r.gained_self d
    _ = price.worth d * ((addClamped r.sold count).toNat - r.sold.toNat) := by
      rw [h.kept, Raffle.gained, afterSale_price, afterSale_sold, h.priced, Asset.worth]

/-! ## Each kind of turn -/

/-- What is attached to a creation pays for the prizes and what is handed on. -/
theorem Contract.create_accounted {env : Surroundings} {caller : Caller} {request : CreateRequest}
    (h : create s env caller request = .ok (s', response)) :
    AccountedFor caller.funds s s' response := by
  intro d
  obtain ⟨_, _, _, _, id, raffle, entered, hnew, _, _, _, hrest⟩ := create_eq_ok h
  obtain ⟨hc, hr⟩ : Change s (.execute env caller (.create request)) (some id) s' ∧
      s'.raffles.get? id = some raffle := by
    rcases hrest with ⟨_, rfl, _⟩ | ⟨_, _, hcycle, _⟩
    · exact ⟨.creation hnew rfl, hnew.record⟩
    · exact ⟨.autocycle hnew hcycle rfl, hcycle.record hnew.record⟩
  rw [hc.released_eq_zero rfl d, hnew.gained hc hr d, Nat.add_zero]
  exact total_create h d

/-- What is attached to a request that can be paid for and is no purchase is accounted for. -/
theorem Turn.accounted_of_paying (hpay : t.takesPayment = true) (hbuys : t.buys? = none)
    (hout : t.outcome s = .ok (s', response)) : AccountedFor t.funds s s' response := by
  obtain ⟨focus, hc⟩ := Turn.change hout
  cases t with
  | execute env caller request =>
      cases request with
      | create r => exact create_accounted hout
      | determineWinner id =>
          intro d
          rw [hc.released_eq_zero rfl d, hc.gained_eq_zero rfl rfl d]
          exact total_determineWinner hout d
      | updateRandomness id =>
          intro d
          rw [hc.released_eq_zero rfl d, hc.gained_eq_zero rfl rfl d]
          exact total_updateRandomness hout d
      | buy r => cases hbuys
      | _ => cases hpay
  | govern _ _ => cases hpay
  | migrate _ => cases hpay

/-- A turn that takes no payment and settles nothing sends nothing and adds nothing. -/
theorem Turn.nothing_moves (hpay : t.takesPayment = false) (hset : t.settles? = none)
    (hout : t.outcome s = .ok (s', response)) (d : Denom) :
    response.messages = [] ∧ s.gained s' d = 0 := by
  have hsilent : t.silent = true := by
    cases t with
    | execute env caller request =>
        cases request with
        | create r => cases hpay
        | cancel id => cases hset
        | claim id => cases hset
        | determineWinner id => cases hpay
        | updateRandomness id => cases hpay
        | _ => rfl
    | govern _ _ => rfl
    | migrate _ => rfl
  refine ⟨Turn.messages_of_silent hsilent hout, ?_⟩
  obtain ⟨focus, hc⟩ := Turn.change hout
  cases t with
  | execute env caller request =>
      cases request with
      | deposit r =>
          obtain ⟨_, _, _, _, id, raffle, hnew, _, _, _, hprizes, _⟩ := deposit_eq_ok hout
          have hentered : Change s (.execute env caller (.deposit r)) (some id) s' :=
            .creation hnew rfl
          rw [hnew.gained hentered hnew.record d]
          rcases hprizes with hprizes | hprizes <;> rw [hprizes] <;> rfl
      | create r => cases hpay
      | buy r => cases hpay
      | _ => exact hc.gained_eq_zero rfl rfl d
  | govern _ _ => exact hc.gained_eq_zero rfl rfl d
  | migrate _ => exact hc.gained_eq_zero rfl rfl d

/-- A turn that takes no payment is balanced without what is attached to it. -/
theorem Turn.accounted_of_unasked (hpay : t.takesPayment = false)
    (hout : t.outcome s = .ok (s', response)) : AccountedFor [] s s' response := by
  intro d
  obtain ⟨focus, hc⟩ := Turn.change hout
  rw [Coin.total_nil, Nat.zero_add]
  cases hset : t.settles? with
  | none =>
      obtain ⟨hmessages, hgained⟩ := Turn.nothing_moves hpay hset hout d
      rw [hc.released_eq_zero hset d, hmessages, hgained, Message.total_nil]
  | some id =>
      have hnew : t.creates = false ∧ t.buys? = none := by
        cases t with
        | execute env caller request => cases request <;> first | exact ⟨rfl, rfl⟩ | cases hset
        | govern _ _ => exact ⟨rfl, rfl⟩
        | migrate _ => exact ⟨rfl, rfl⟩
      rw [Turn.released_of_settles hset hout d, hc.gained_eq_zero hnew.1 hnew.2 d, Nat.add_zero]

/-- What pays for tickets is accounted for when all of them can be counted. -/
theorem Contract.buy_accounted_iff {env : Surroundings} {caller : Caller} {request : BuyRequest}
    (h : Reachable clock now s) (hbuy : buy s env caller request = .ok (s', response)) :
    AccountedFor caller.funds s s' response ↔ ∀ r, s.raffles.get? request.raffle = some r →
      r.sold.toNat + request.count.toNat < UInt32.size := by
  obtain ⟨r, price, hsale, _, ⟨amount, hfunds, hamount⟩, hmessages⟩ := buy_eq_ok hbuy
  have hc : Change s (.execute env caller (.buy request)) (some request.raffle) s' :=
    .sale hsale rfl
  have hpaid (d : Denom) : Coin.total caller.funds d = price.worth d * request.count.toNat :=
    total_payment hfunds hamount d
  have hgained (d : Denom) : s.gained s' d =
      price.worth d * ((addClamped r.sold request.count).toNat - r.sold.toNat) :=
    hsale.gained (t := .execute env caller (.buy request)) rfl d
  have hclamped := addClamped_toNat r.sold request.count
  have hsize : UInt32.size = 4294967296 := rfl
  have hcount := request.count.toNat_lt
  have hsold := r.sold.toNat_lt
  constructor
  · intro haccounted r₁ hr₁
    obtain rfl := Option.some.inj (hsale.kept.symm.trans hr₁)
    have hdenom := haccounted price.denom
    rw [hc.released_eq_zero rfl, hmessages, hpaid, hgained, Message.total_nil, Nat.add_zero,
      Nat.zero_add] at hdenom
    -- The tickets cost something, so the amounts agree only when the numbers of tickets do.
    have hpos := (h.checked hsale.kept).worth_pos hsale.priced
    have hsame := Nat.eq_of_mul_eq_mul_left hpos hdenom
    omega
  · intro hfits d
    have hlt := hfits r hsale.kept
    have hsame : (addClamped r.sold request.count).toNat - r.sold.toNat = request.count.toNat := by
      omega
    rw [hc.released_eq_zero rfl, hmessages, hpaid, hgained, hsame, Message.total_nil, Nat.add_zero,
      Nat.zero_add]

/-! ## Which turns strand coins -/

namespace Turn

theorem strands_iff_of_unasked (hpay : t.takesPayment = false) :
    t.Strands s ↔ ¬∀ d, Coin.total t.funds d = 0 := by
  rw [Coin.total_eq_zero_iff]
  constructor
  · intro hstrands hzero
    cases hstrands with
    | unasked _ attached positive =>
        rw [hzero _ attached] at positive
        cases positive
    | clamped turn _ _ =>
        rw [turn] at hpay
        cases hpay
  · intro hzero
    push Not at hzero
    obtain ⟨c, hc, hpos⟩ := hzero
    exact .unasked hpay hc (eq_false_of_ne_true hpos)

theorem not_strands_of_paying (hpay : t.takesPayment = true) (hbuys : t.buys? = none) :
    ¬t.Strands s := by
  intro hstrands
  cases hstrands with
  | unasked asks _ _ =>
      rw [hpay] at asks
      cases asks
  | clamped turn _ _ =>
      rw [turn] at hbuys
      cases hbuys

theorem strands_buy_iff {env : Surroundings} {caller : Caller} {request : BuyRequest} :
    (Turn.execute env caller (.buy request)).Strands s ↔ ∃ r,
      s.raffles.get? request.raffle = some r ∧
        UInt32.size ≤ r.sold.toNat + request.count.toNat := by
  constructor
  · intro hstrands
    cases hstrands with
    | unasked asks _ _ => cases asks
    | clamped turn kept exceeds =>
        cases turn
        exact ⟨_, kept, exceeds⟩
  · rintro ⟨r, kept, exceeds⟩
    exact .clamped rfl kept exceeds

/-- A request that takes no payment does not look at what is attached. -/
theorem outcome_attaching (hpay : t.takesPayment = false) (funds : List Coin) (s : Store) :
    (t.attaching funds).outcome s = t.outcome s := by
  cases t with
  | execute env caller request =>
      cases request with
      | create r => cases hpay
      | buy r => cases hpay
      | determineWinner id => cases hpay
      | updateRandomness id => cases hpay
      | _ => rfl
  | govern _ _ => rfl
  | migrate _ => rfl

end Turn

/-- The coins attached to an accepted turn are accounted for unless the turn strands them: they come
with a request that takes no payment, or pay for more tickets than can be counted. A request that
takes no payment is accepted with whatever is attached to it, and to the same effect. -/
theorem accounted_iff_not_stranded (h : Reachable clock now s)
    (hout : t.outcome s = .ok (s', response)) :
    (AccountedFor t.funds s s' response ↔ ¬t.Strands s) ∧
      (t.takesPayment = false →
        ∀ funds, (t.attaching funds).outcome s = .ok (s', response)) := by
  refine ⟨?_, fun hpay funds => (t.outcome_attaching hpay funds s).trans hout⟩
  cases hpay : t.takesPayment with
  | false =>
      have hbalanced := Turn.accounted_of_unasked hpay hout
      rw [Turn.strands_iff_of_unasked hpay, not_not]
      apply forall_congr'
      intro d
      have hnothing := hbalanced d
      rw [Coin.total_nil] at hnothing
      omega
  | true =>
      cases hbuys : t.buys? with
      | none =>
          exact iff_of_true (Turn.accounted_of_paying hpay hbuys hout)
            (Turn.not_strands_of_paying hpay hbuys)
      | some bought =>
          cases t with
          | execute env caller request =>
              cases request with
              | buy request =>
                  rw [Turn.strands_buy_iff]
                  push Not
                  exact buy_accounted_iff h hout
              | _ => cases hbuys
          | govern _ _ => cases hbuys
          | migrate _ => cases hbuys

/-- Coins attached to the claim of the small run stay behind, and the claim goes through without
them as well. -/
theorem coins_of_sample_stranded : ∃ response,
    (Sample.payout.attaching [Sample.coin 5 "ustars"]).outcome Sample.drawn =
      .ok (Sample.paid, response) ∧
    ¬AccountedFor [Sample.coin 5 "ustars"] Sample.drawn Sample.paid response ∧
    (Sample.payout.attaching []).outcome Sample.drawn = .ok (Sample.paid, response) := by
  obtain ⟨response, hout⟩ : ∃ response,
      (Sample.payout.attaching [Sample.coin 5 "ustars"]).outcome Sample.drawn =
        .ok (Sample.paid, response) := ⟨_, rfl⟩
  obtain ⟨hiff, hany⟩ := accounted_iff_not_stranded Sample.drawn_recorded.reachable hout
  refine ⟨response, hout, ?_, hany rfl []⟩
  intro haccounted
  exact hiff.mp haccounted (.unasked rfl List.mem_cons_self rfl)

end Tombola
