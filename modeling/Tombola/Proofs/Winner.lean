import Tombola.Proofs.OnSale

/-!
# The winner is the one that the randomness draws

Sales are over when the randomness comes, so the tickets among which the winner is drawn are those
of the ledger for ever. The winner is the buyer of the slot that the randomness, read as a number,
leaves on division by their number, and a claim hands the prizes to the winner.
-/

namespace Tombola

open Contract

namespace Contract

theorem ofBigEndian_append (bytes : Bytes) (b : UInt8) :
    ofBigEndian (bytes ++ [b]) = 256 * ofBigEndian bytes + b.toNat := by
  simp [ofBigEndian, List.foldl_append]

/-- The bytes are digits to the base 256, the highest first. -/
theorem ofBigEndian_eq_ofDigits (bytes : Bytes) :
    ofBigEndian bytes = Nat.ofDigits 256 (bytes.reverse.map UInt8.toNat) := by
  induction bytes using List.reverseRecOn with
  | nil => rfl
  | append_singleton bytes b ih =>
      calc
        ofBigEndian (bytes ++ [b])
          = b.toNat + 256 * Nat.ofDigits 256 (bytes.reverse.map UInt8.toNat) := by
            rw [ofBigEndian_append, ih, Nat.add_comm]
        _ = Nat.ofDigits 256 ((bytes ++ [b]).reverse.map UInt8.toNat) := by
            rw [List.reverse_append, List.reverse_singleton, List.singleton_append, List.map_cons,
              Nat.ofDigits_cons]

/-- The slot that the randomness draws from a number of tickets. -/
def drawnSlot (randomness : Bytes) (tickets : TicketCount) : Nat :=
  Nat.ofDigits 256 (randomness.reverse.map UInt8.toNat) % tickets.toNat

theorem drawnSlot_lt (randomness : Bytes) {tickets : TicketCount} (h : tickets ≠ 0) :
    drawnSlot randomness tickets < tickets.toNat := by
  apply Nat.mod_lt
  apply Nat.pos_of_ne_zero
  intro hz
  exact h (UInt32.toNat_inj.mp hz)

/-- There are as many slots as can be drawn. -/
theorem ofNat?_drawnSlot (randomness : Bytes) {tickets : TicketCount} (h : tickets ≠ 0) :
    Slot.ofNat? (drawnSlot randomness tickets) =
      some (UInt32.ofNat (drawnSlot randomness tickets)) :=
  if_pos (lt_trans (drawnSlot_lt randomness h) tickets.toNat_lt)

theorem pickWinner_zero_eq_ok {s : Store} {id : RaffleId} {randomness : Bytes}
    {winner : Option Address} :
    pickWinner s id randomness 0 = .ok winner ↔ winner = none := by
  rw [pickWinner, if_pos rfl, Outcome.pure_eq_ok, eq_comm]

/-- When there are tickets, the winner is the buyer of the slot that is drawn. -/
theorem pickWinner_eq_ok {s : Store} {id : RaffleId} {randomness : Bytes} {tickets : TicketCount}
    {winner : Option Address} (h : tickets ≠ 0) :
    pickWinner s id randomness tickets = .ok winner ↔
      randomness.length = Refusal.randomnessBytes ∧ ∃ buyer,
        (s.ledger id).ownerOf? (UInt32.ofNat (drawnSlot randomness tickets)) = some buyer ∧
          winner = some buyer := by
  have hslot := ofNat?_drawnSlot randomness h
  rw [drawnSlot, ← ofBigEndian_eq_ofDigits] at hslot ⊢
  simp only [pickWinner, if_neg h, winningSlot, hslot, ticketOwner, Outcome.bind_eq_ok,
    Outcome.ensure_eq_ok, Outcome.orRefuse_eq_ok, decide_eq_true_eq, Option.some.injEq]
  constructor
  · rintro ⟨_, hlength, _, ⟨_, _, _, _, rfl⟩, howner⟩
    obtain ⟨buyer, hbuyer, rfl⟩ := Outcome.map_eq_ok.mp howner
    exact ⟨hlength, buyer, Outcome.orRefuse_eq_ok.mp hbuyer, rfl⟩
  · rintro ⟨hlength, buyer, hbuyer, rfl⟩
    exact ⟨(), hlength, _, ⟨(), hlength, (), h, rfl⟩,
      Outcome.map_eq_ok.mpr ⟨buyer, Outcome.orRefuse_eq_ok.mpr hbuyer, rfl⟩⟩

/-- Which winner is picked depends on the ledger alone. -/
theorem pickWinner_congr {s s' : Store} {id : RaffleId} (h : s'.ledger id = s.ledger id)
    (randomness : Bytes) (tickets : TicketCount) :
    pickWinner s' id randomness tickets = pickWinner s id randomness tickets := by
  simp only [pickWinner, ticketOwner, h]

end Contract

/-- The second record has the randomness and the winner of the first and as many tickets sold. -/
structure Raffle.SameDraw (r r' : Raffle) : Prop where
  randomness : r'.randomness = r.randomness
  winner : r'.winner = r.winner
  sold : r'.sold = r.sold

variable {now now' : Timestamp} {s s' : Store} {t : Turn} {focus : Option RaffleId} {id : RaffleId}
  {r : Raffle} {steps : List Step} {bytes : Bytes}

/-- Once the randomness is there a change keeps it, the winner and the tickets: the raffle is not
drawn again, and sells nothing more because it has closed. -/
theorem Change.keeps_draw (hc : Change s t focus s') (hs : s.Scheduled t.now id)
    (hr : s.raffles.get? id = some r) (hz : r.randomness.isSome) :
    ∃ r', s'.raffles.get? id = some r' ∧ r.SameDraw r' ∧ s'.ledger id = s.ledger id := by
  cases hc.raffle id with
  | same raffle ledger _ => exact ⟨r, raffle.trans hr, ⟨rfl, rfl, rfl⟩, ledger⟩
  | entered hnew _ _ _ => exact absurd hr (hnew.ne_some r)
  | revised kept hrev raffle ledger _ =>
      obtain rfl := Option.some.inj (hr.symm.trans kept)
      refine ⟨_, raffle, ?_, ledger⟩
      cases hrev with
      | drawn hclosed =>
          obtain ⟨_, hnone, _⟩ := Raffle.phase?_eq_closed.mp hclosed
          rw [hnone] at hz
          cases hz
      | _ => exact ⟨rfl, rfl, rfl⟩
  | sold hsale =>
      obtain rfl := Option.some.inj (hr.symm.trans hsale.kept)
      obtain ⟨c, hc, hle⟩ := hs.drawn hr hz
      obtain ⟨_, _, c', hc', hlt⟩ := Raffle.phase?_eq_started.mp hsale.started
      obtain rfl := Option.some.inj (hc.symm.trans hc')
      exact absurd hlt (not_lt.mpr hle)

/-- Randomness that a change brings is an answer that draws the winner. -/
theorem Change.draws (hc : Change s t focus s')
    (hbefore : ∀ r, s.raffles.get? id = some r → r.randomness = none)
    (hr : s'.raffles.get? id = some r) (hz : r.randomness = some bytes) :
    bytes.length = Refusal.randomnessBytes ∧ pickWinner s id bytes r.sold = .ok r.winner ∧
      s'.ledger id = s.ledger id := by
  have hnew : ∀ r₀, s.raffles.get? id = some r₀ → r.randomness ≠ r₀.randomness := by
    intro r₀ hr₀ heq
    rw [hz, hbefore r₀ hr₀] at heq
    cases heq
  by_cases hid : focus = some id
  · subst hid
    cases hc with
    | creation h =>
        obtain rfl := Option.some.inj (hr.symm.trans h.record)
        rw [h.entered] at hz
        cases hz
    | autocycle h h' =>
        obtain rfl := Option.some.inj (hr.symm.trans (h'.record h.record))
        rw [h.entered] at hz
        cases hz
    | modification h =>
        obtain rfl := Option.some.inj (hr.symm.trans h.record)
        exact (hnew _ h.kept rfl).elim
    | sale h =>
        obtain rfl := Option.some.inj (hr.symm.trans h.record)
        exact (hnew _ h.kept (afterSale_randomness _ _ _)).elim
    | inquiry h =>
        obtain rfl := Option.some.inj (hr.symm.trans h.record)
        exact (hnew _ h.kept rfl).elim
    | draw h =>
        obtain rfl := Option.some.inj (hr.symm.trans h.record)
        obtain rfl := Option.some.inj hz
        refine ⟨h.length, h.drawn, ?_⟩
        rw [h.store, Store.ledger_clearJob, Store.ledger_putRaffle]
    | cancellation h =>
        obtain rfl := Option.some.inj (hr.symm.trans h.record)
        exact (hnew _ h.kept rfl).elim
    | claim h =>
        obtain rfl := Option.some.inj (hr.symm.trans h.record)
        exact (hnew _ h.kept rfl).elim
  · rw [(hc.agree hid).raffle] at hr
    exact (hnew r hr rfl).elim

/-- The winner is the one that the randomness draws. -/
def Store.Drawn (s : Store) (id : RaffleId) : Prop :=
  ∀ r bytes, s.raffles.get? id = some r → r.randomness = some bytes →
    bytes.length = Refusal.randomnessBytes ∧ pickWinner s id bytes r.sold = .ok r.winner

theorem Store.Drawn.change (h : s.Drawn id) (hs : s.Scheduled t.now id)
    (hc : Change s t focus s') : s'.Drawn id := by
  intro r' bytes hr' hz'
  by_cases hbefore : ∀ r, s.raffles.get? id = some r → r.randomness = none
  · obtain ⟨hlength, hpick, hledger⟩ := hc.draws hbefore hr' hz'
    exact ⟨hlength, (pickWinner_congr hledger _ _).trans hpick⟩
  · simp only [not_forall] at hbefore
    obtain ⟨r, hr, hz⟩ := hbefore
    obtain ⟨r₀, hr₀, hsame, hledger⟩ := hc.keeps_draw hs hr (Option.isSome_iff_ne_none.mpr hz)
    obtain rfl := Option.some.inj (hr'.symm.trans hr₀)
    rw [pickWinner_congr hledger, hsame.sold, hsame.winner]
    exact h r bytes hr (hsame.randomness ▸ hz')

/-- The draw of a raffle is over: what it has found and the tickets that it was made among. -/
structure Store.Over (now : Timestamp) (id : RaffleId) (draw : Raffle) (tickets : Ledger)
    (s : Store) : Prop where
  named : s.Named
  scheduled : s.Scheduled now id
  record : ∃ r, s.raffles.get? id = some r ∧ draw.SameDraw r
  ledger : s.ledger id = tickets

theorem Run.over {draw : Raffle} {tickets : Ledger} (h : Run .forward now s steps now' s')
    (hdrawn : draw.randomness.isSome) (hs : s.Over now id draw tickets) :
    s'.Over now' id draw tickets := by
  refine h.keeps (P := fun now s => s.Over now id draw tickets) ?_ ?_ hs
  · intro now now' s hle hs
    exact { hs with scheduled := hs.scheduled.later hle }
  · intro t s s' focus hs hc
    obtain ⟨r, hr, hsame⟩ := hs.record
    obtain ⟨r', hr', hsame', hledger⟩ :=
      hc.keeps_draw hs.scheduled hr (by rwa [hsame.randomness])
    refine ⟨hs.named.change hc, hs.scheduled.change hs.named rfl hc, ⟨r', hr', ?_⟩,
      hledger.trans hs.ledger⟩
    exact ⟨hsame'.randomness.trans hsame.randomness, hsame'.winner.trans hsame.winner,
      hsame'.sold.trans hsame.sold⟩

theorem Reachable.drawn (h : Reachable .forward now s) (id : RaffleId) : s.Drawn id := by
  apply h.induction (P := fun _ s => s.Drawn id)
  · intro now config _ _ _ _ _
    nofun
  · intro now now' s _ hs
    exact hs
  · intro now t s s' focus hreach hle hs hc
    exact hs.change ((hreach.scheduled id).later hle) hc

/-- The purchase that covers the slot that is drawn is the one that a look-up by slot finds. -/
theorem floor?_drawnSlot {l : Ledger} {sold : TicketCount} (h : sold ≠ 0)
    (hbooks : Ledger.Consecutive 0 l.entries sold.toNat) {e : Slot × Purchase} (he : e ∈ l.entries)
    (hcovers : Ledger.Covers e (drawnSlot bytes sold)) :
    l.floor? (UInt32.ofNat (drawnSlot bytes sold)) = some e := by
  apply hbooks.floor?_eq he
  rwa [UInt32.toNat_ofNat_of_lt' (lt_trans (drawnSlot_lt bytes h) sold.toNat_lt)]

/-- The slot that is drawn belongs to one purchase of the ledger, and the winner is its buyer. -/
theorem winner_eq_buyer {sold : TicketCount} {winner : Option Address} (h : sold ≠ 0)
    (hbooks : Ledger.Consecutive 0 (s.ledger id).entries sold.toNat)
    (hpick : pickWinner s id bytes sold = .ok winner) :
    ∃ e ∈ (s.ledger id).entries, Ledger.Covers e (drawnSlot bytes sold) ∧
      (∀ e' ∈ (s.ledger id).entries, Ledger.Covers e' (drawnSlot bytes sold) → e' = e) ∧
      winner = some e.2.buyer := by
  obtain ⟨e, he, hcovers⟩ := hbooks.exists_covers (Nat.zero_le _) (drawnSlot_lt bytes h)
  have hfloor := floor?_drawnSlot h hbooks he hcovers
  refine ⟨e, he, hcovers, ?_, ?_⟩
  · intro e' he' hcovers'
    exact Option.some.inj ((floor?_drawnSlot h hbooks he' hcovers').symm.trans hfloor)
  · obtain ⟨_, buyer, howner, rfl⟩ := (pickWinner_eq_ok h).mp hpick
    rw [Ledger.ownerOf?, hfloor, Option.map_some] at howner
    exact howner.symm

/-- A raffle that has its randomness, and may sell fewer tickets than the greatest count, has the
winner that the randomness draws: none when nothing is sold, and else the buyer of the one purchase
that takes the slot drawn. No later step changes the randomness, the winner, the number of tickets
or the ledger, and a claim hands every prize to the winner, or to the owner when there is none. -/
theorem winner_is_drawn_for_ever (h : Reachable .forward now s) (hr : s.raffles.get? id = some r)
    (hb : r.Bounded) (hz : r.randomness = some bytes) :
    bytes.length = 32 ∧ (r.winner = none ↔ r.sold = 0) ∧
    (r.sold ≠ 0 → ∃ e ∈ (s.ledger id).entries,
      Ledger.Covers e (Nat.ofDigits 256 (bytes.reverse.map UInt8.toNat) % r.sold.toNat) ∧
      (∀ e' ∈ (s.ledger id).entries,
        Ledger.Covers e' (Nat.ofDigits 256 (bytes.reverse.map UInt8.toNat) % r.sold.toNat) →
          e' = e) ∧
      r.winner = some e.2.buyer) ∧
    (∀ {steps now' s'}, Run .forward now s steps now' s' → ∃ r', s'.raffles.get? id = some r' ∧
      r'.randomness = r.randomness ∧ r'.winner = r.winner ∧ r'.sold = r.sold ∧
      s'.ledger id = s.ledger id) ∧
    (∀ env caller s' response, execute s env caller (.claim id) = .ok (s', response) →
      ∃ config proceeds, s.config = some config ∧ proceedsMessages config r = .ok proceeds ∧
        response.messages = r.prizes.map (transfer (r.winner.getD r.owner)) ++ proceeds) := by
  obtain ⟨hlength, hpick⟩ := h.drawn id r bytes hr hz
  have hbuyer := fun hsold =>
    winner_eq_buyer hsold ((h.accounted id).books hr (.inr hb)).consecutive hpick
  refine ⟨hlength, ?_, hbuyer, ?_, ?_⟩
  · constructor
    · intro hnone
      by_contra hsold
      obtain ⟨e, _, _, _, hwinner⟩ := hbuyer hsold
      rw [hnone] at hwinner
      cases hwinner
    · intro hsold
      rw [hsold] at hpick
      exact pickWinner_zero_eq_ok.mp hpick
  · intro steps now' s' hrun
    have hover : s.Over now id r (s.ledger id) :=
      ⟨h.named, h.scheduled id, ⟨r, hr, rfl, rfl, rfl⟩, rfl⟩
    have hover' := hrun.over (by rw [hz]; rfl) hover
    obtain ⟨r', hr', hsame⟩ := hover'.record
    exact ⟨r', hr', hsame.randomness, hsame.winner, hsame.sold, hover'.ledger⟩
  · intro env caller s' response hclaim
    obtain ⟨config, r₀, proceeds, hclaimed, hconfig, hproceeds, hmessages⟩ := claim_eq_ok hclaim
    obtain rfl := Option.some.inj (hr.symm.trans hclaimed.kept)
    exact ⟨config, proceeds, hconfig, hproceeds, hmessages⟩

/-- In the small run both tickets are the buyer's, who wins and is handed the prize. -/
theorem winner_of_sample : ∃ r, Sample.drawn.raffles.get? 0 = some r ∧ r.winner = some "buyer" ∧
    (∃ e ∈ (Sample.drawn.ledger 0).entries, r.winner = some e.2.buyer) ∧
    (∃ r', Sample.paid.raffles.get? 0 = some r' ∧ r'.winner = r.winner) ∧
    ∃ response proceeds, Sample.payout.response? Sample.drawn = some response ∧
      response.messages = .send "buyer" [Sample.coin 7 "uprize"] :: proceeds := by
  obtain ⟨r, hr, hb, hz, hsold, hwinner, hprizes⟩ : ∃ r, Sample.drawn.raffles.get? 0 = some r ∧
      r.Bounded ∧ r.randomness = some (List.replicate 32 7) ∧ r.sold ≠ 0 ∧
      r.winner = some "buyer" ∧ r.prizes = [.coin (Sample.coin 7 "uprize")] :=
    ⟨_, rfl, ⟨_, rfl, by decide⟩, rfl, by decide, rfl, rfl⟩
  obtain ⟨_, _, hbuyer, hrun, hclaim⟩ :=
    winner_is_drawn_for_ever Sample.drawn_recorded.reachable hr hb hz
  obtain ⟨e, he, _, _, hwins⟩ := hbuyer hsold
  obtain ⟨r', hr', _, hsame, _⟩ := hrun
    (.turn Sample.payout .start (by decide : (⟨1000000005⟩ : Timestamp) ≤ ⟨1000000006⟩))
  obtain ⟨effect, heffect⟩ : ∃ effect, execute Sample.drawn (Sample.env 1000000006) ⟨"anyone", []⟩
      (.claim 0) = .ok effect := ⟨_, rfl⟩
  obtain ⟨_, proceeds, _, _, hmessages⟩ := hclaim _ _ effect.1 effect.2 heffect
  rw [hwinner, hprizes] at hmessages
  exact ⟨r, hr, hwinner, ⟨e, he, hwins⟩, ⟨r', hr', hsame⟩, effect.2, proceeds,
    Turn.response?_of_ok heffect, hmessages⟩

end Tombola
