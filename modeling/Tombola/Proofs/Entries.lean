import Tombola.Proofs.Awaited

/-!
# The entries of a raffle

Besides its record a raffle has its purchases, the holdings of its buyers, the job that it waits for
and the jobs that name it. A change leaves all of these as they are for a raffle that it is not
about. So only stored raffles have entries, and the stored raffles are those up to the last.
-/

namespace Tombola

open Contract

variable {clock : Clock} {now : Timestamp} {s s' s'' : Store} {t : Turn} {focus : Option RaffleId}
  {id other : RaffleId}

namespace Store

/-- Two stores have the same entries of one raffle. Other than for `Agree`, a holding of zero
tickets is not the same as none, and the jobs themselves count. -/
structure Alike (id : RaffleId) (s s' : Store) : Prop where
  raffle : s'.raffles.get? id = s.raffles.get? id
  ledger : s'.ledger id = s.ledger id
  held : ∀ buyer, (s'.holdingsOf buyer).get? id = (s.holdingsOf buyer).get? id
  awaited : s'.awaited.get? id = s.awaited.get? id
  jobs : ∀ j job, job.raffle = id → (s'.jobs.get? j = some job ↔ s.jobs.get? j = some job)

/-- An entry other than the record names the raffle. -/
inductive Mentions (s : Store) (id : RaffleId) : Prop
  | purchase {slot p} (h : (s.ledger id).get? slot = some p)
  | holding {buyer count} (h : (s.holdingsOf buyer).get? id = some count)
  | awaited {j} (h : s.awaited.get? id = some j)
  | job {j job} (h : s.jobs.get? j = some job) (raffle : job.raffle = id)

theorem Alike.mentions (h : s.Alike id s') (hm : s'.Mentions id) : s.Mentions id := by
  cases hm with
  | purchase hp => exact .purchase (h.ledger ▸ hp)
  | @holding buyer _ hh => exact .holding (h.held buyer ▸ hh)
  | awaited hj => exact .awaited (h.awaited ▸ hj)
  | job hj raffle => exact .job ((h.jobs _ _ raffle).mp hj) raffle

theorem held_putHolding (s : Store) (id other : RaffleId) (buyer buyer' : Address)
    (count : TicketCount) : ((s.putHolding buyer id count).holdingsOf buyer').get? other =
      if buyer' = buyer ∧ other = id then some count else (s.holdingsOf buyer').get? other := by
  rw [holdingsOf, putHolding, Table.get?_insert]
  by_cases hb : buyer' = buyer
  · subst hb
    simp only [if_true, Option.getD_some, Table.get?_insert, true_and]
  · simp only [hb, if_false, false_and, holdingsOf]

theorem held_congr (h : s'.holdings = s.holdings) (buyer : Address) (id : RaffleId) :
    (s'.holdingsOf buyer).get? id = (s.holdingsOf buyer).get? id := by
  rw [holdingsOf, h, holdingsOf]

end Store

theorem Contract.Sale.held {buyer : Address} {count : TicketCount} {raffle : Raffle} {price : Coin}
    (h : Sale s now buyer id count raffle price s') (buyer' : Address) (other : RaffleId) :
    (s'.holdingsOf buyer').get? other = if buyer' = buyer ∧ other = id then
      some (addClamped (s.holding buyer id) count) else (s.holdingsOf buyer').get? other := by
  rw [h.store]
  exact Store.held_putHolding _ id other buyer buyer' _

/-- Only a sale changes the ledgers and what buyers hold. -/
theorem Change.tickets (h : Change s t focus s') :
    (s'.ledgers = s.ledgers ∧ s'.holdings = s.holdings) ∨
      ∃ buyer id count raffle price, focus = some id ∧ t.buys? = some (buyer, id) ∧
        Sale s t.now buyer id count raffle price s' := by
  cases h with
  | idle => exact .inl ⟨rfl, rfl⟩
  | version => exact .inl ⟨rfl, rfl⟩
  | settings => exact .inl ⟨rfl, rfl⟩
  | creation h =>
      obtain rfl := h.store
      exact .inl ⟨rfl, rfl⟩
  | autocycle h h' =>
      obtain rfl := h'.store
      obtain rfl := h.store
      exact .inl ⟨ledgers_requestRandomness _ _ _ _ _ _, holdings_requestRandomness _ _ _ _ _ _⟩
  | modification h =>
      obtain rfl := h.store
      exact .inl ⟨rfl, rfl⟩
  | sale h turn => exact .inr ⟨_, _, _, _, _, rfl, turn, h⟩
  | inquiry h =>
      obtain rfl := h.store
      exact .inl ⟨ledgers_requestRandomness _ _ _ _ _ _, holdings_requestRandomness _ _ _ _ _ _⟩
  | draw h =>
      obtain rfl := h.store
      exact .inl ⟨Store.ledgers_clearJob _ _, Store.holdings_clearJob _ _⟩
  | cancellation h =>
      obtain rfl := h.store
      exact .inl ⟨Store.ledgers_clearJob _ _, Store.holdings_clearJob _ _⟩
  | claim h =>
      obtain rfl := h.store
      exact .inl ⟨rfl, rfl⟩

/-- Only a sale changes what buyers hold. -/
theorem Change.holdings (h : Change s t focus s') : s'.holdings = s.holdings ∨
    ∃ buyer id count raffle price, focus = some id ∧
      Sale s t.now buyer id count raffle price s' := by
  rcases h.tickets with ⟨_, hsame⟩ | ⟨buyer, id, count, raffle, price, hfocus, _, hsale⟩
  · exact .inl hsame
  · exact .inr ⟨buyer, id, count, raffle, price, hfocus, hsale⟩

theorem Change.held (h : Change s t focus s') (hid : focus ≠ some other) (buyer : Address) :
    (s'.holdingsOf buyer).get? other = (s.holdingsOf buyer).get? other := by
  rcases h.holdings with hsame | ⟨buyer', id, count, raffle, price, rfl, hsale⟩
  · exact Store.held_congr hsame buyer other
  · rw [hsale.held]
    exact if_neg fun h => ne_of_focus hid h.2

/-- A change keeps the jobs that name a raffle that it is not about. -/
theorem Change.jobs_of_raffle (h : Change s t focus s') (hs : s.Matched)
    (hid : focus ≠ some other) (j : JobId) (job : Job) (hjob : job.raffle = other) :
    s'.jobs.get? j = some job ↔ s.jobs.get? j = some job := by
  -- A job of the raffle in focus is none of the other raffle.
  have hnone : ∀ {id}, other ≠ id → s.awaited.get? id = some j → s.jobs.get? j ≠ some job := by
    intro id hne hawaited hkept
    exact hne (hjob.symm.trans (hs.raffle_eq hawaited hkept))
  cases h.jobs with
  | kept _ jobs => rw [jobs]
  | cleared awaited jobs =>
      rw [Store.jobs_clearJob, awaited, jobs]
      split
      · next hfree => exact iff_of_false nofun (hnone (ne_of_focus hid) hfree)
      · rfl
  | @requested _ id attempt _ _ awaited jobs =>
      have hne := ne_of_focus hid
      rw [jobs_requestRandomness, awaited, jobs]
      split
      · next heq =>
        subst heq
        refine iff_of_false ?_ ?_
        · rintro ⟨⟩
          exact hne hjob.symm
        · intro hkept
          exact hne (hjob.symm.trans (Job.id_inj (hs.id_eq hkept)).1.symm)
      · split
        · next hfree => exact iff_of_false nofun (hnone hne hfree)
        · rfl

/-- A change keeps all entries of a raffle that it is not about. -/
theorem Change.alike (h : Change s t focus s') (hs : s.Matched) (hid : focus ≠ some other) :
    s.Alike other s' := by
  have hagree := h.agree hid
  exact ⟨hagree.raffle, hagree.ledger, h.held hid, hagree.awaited, h.jobs_of_raffle hs hid⟩

/-! ## Only stored raffles have entries -/

/-- The raffle that a change is about is stored after it. -/
theorem Change.focus_stored (h : Change s t (some id) s') : (s'.raffles.get? id).isSome := by
  cases h with
  | creation h => rw [h.record]; rfl
  | autocycle h h' => rw [h'.record h.record]; rfl
  | modification h => rw [h.record]; rfl
  | sale h => rw [h.record]; rfl
  | inquiry h => rw [h.record]; rfl
  | draw h => rw [h.record]; rfl
  | cancellation h => rw [h.record]; rfl
  | claim h => rw [h.record]; rfl

theorem Reachable.stored_of_mentions (h : Reachable clock now s) (hm : s.Mentions id) :
    (s.raffles.get? id).isSome := by
  refine h.induction (P := fun _ s => s.Mentions id → (s.raffles.get? id).isSome) ?_ ?_ ?_ hm
  · rintro now config _ _ _ (hp | hh | hj | hj)
    · cases hp
    · cases hh
    · cases hj
    · cases hj
  · intro now now' s _ hs
    exact hs
  · intro now t s s' focus hreach _ hs hc hm
    by_cases hid : focus = some id
    · subst hid
      exact hc.focus_stored
    · have halike := hc.alike hreach.matched hid
      rw [halike.raffle]
      exact hs (halike.mentions hm)

/-- A raffle that is not stored has no entries at all. -/
theorem Reachable.not_mentions (h : Reachable clock now s) (hfresh : s.raffles.get? id = none) :
    ¬s.Mentions id := by
  intro hm
  have hstored := h.stored_of_mentions hm
  rw [hfresh] at hstored
  cases hstored

/-! ## The numbers of raffles -/

namespace Store

/-- The last raffle, as the configuration has it. -/
def last? (s : Store) : Option RaffleId := s.config.bind (·.lastRaffle)

/-- The raffles stored are those up to the last. -/
def Numbered (s : Store) : Prop :=
  ∀ id, (s.raffles.get? id).isSome ↔ ∃ last, s.last? = some last ∧ id ≤ last

theorem last?_of {config : Config} (h : s.config = some config) : s.last? = config.lastRaffle := by
  rw [last?, h, Option.bind_some]

/-- An id after the last one is free. -/
theorem Numbered.get?_eq_none (hs : s.Numbered) (h : ∀ last, s.last? = some last → ¬id ≤ last) :
    s.raffles.get? id = none := by
  rw [← Option.not_isSome_iff_eq_none, hs id]
  rintro ⟨last, hlast, hle⟩
  exact h last hlast hle

/-- A record that replaces another one stores no new raffle. -/
theorem isSome_of_replaced {r r' : Raffle} (kept : s.raffles.get? id = some r)
    (h : s'.raffles = (s.putRaffle id r').raffles) (other : RaffleId) :
    (s'.raffles.get? other).isSome = (s.raffles.get? other).isSome := by
  rw [h, raffles_putRaffle]
  split
  · next heq => rw [heq, kept]; rfl
  · rfl

end Store

/-- A change enters the raffle after the last, or keeps which raffles are stored and which one is
the last. -/
theorem Change.numbers (h : Change s t focus s') :
    (s'.last? = s.last? ∧ ∀ id, (s'.raffles.get? id).isSome = (s.raffles.get? id).isSome) ∨
    ∃ config r owner id raffle entered, Creation s t.now config r owner id raffle entered ∧
      s'.config = entered.config ∧ s'.raffles = entered.raffles := by
  have hlast {s s' : Store} (h : s'.config = s.config) : s'.last? = s.last? := by
    rw [Store.last?, h, Store.last?]
  cases h with
  | idle => exact .inl ⟨rfl, fun _ => rfl⟩
  | version => exact .inl ⟨rfl, fun _ => rfl⟩
  | settings configured last =>
      refine .inl ⟨?_, fun _ => rfl⟩
      rw [Store.last?_of configured, ← last]
      rfl
  | creation h => exact .inr ⟨_, _, _, _, _, _, h, rfl, rfl⟩
  | autocycle h h' =>
      obtain rfl := h'.store
      exact .inr ⟨_, _, _, _, _, _, h, config_requestRandomness _ _ _ _ _ _,
        raffles_requestRandomness _ _ _ _ _ _⟩
  | modification h =>
      have hkept := h.kept
      obtain rfl := h.store
      exact .inl ⟨rfl, Store.isSome_of_replaced hkept rfl⟩
  | sale h =>
      have hkept := h.kept
      obtain rfl := h.store
      exact .inl ⟨rfl, Store.isSome_of_replaced hkept rfl⟩
  | inquiry h =>
      obtain rfl := h.store
      exact .inl ⟨hlast (config_requestRandomness _ _ _ _ _ _),
        fun id => by rw [raffles_requestRandomness]⟩
  | draw h =>
      have hkept := h.kept
      obtain rfl := h.store
      exact .inl ⟨hlast (Store.config_clearJob _ _),
        Store.isSome_of_replaced hkept (Store.raffles_clearJob _ _)⟩
  | cancellation h =>
      have hkept := h.kept
      obtain rfl := h.store
      exact .inl ⟨hlast (Store.config_clearJob _ _),
        Store.isSome_of_replaced hkept (Store.raffles_clearJob _ _)⟩
  | claim h =>
      have hkept := h.kept
      obtain rfl := h.store
      exact .inl ⟨rfl, Store.isSome_of_replaced hkept rfl⟩

/-- The ids up to that of a new raffle are its own and those up to the last one before. -/
theorem Contract.Creation.le_iff {config : Config} {r : CreateRequest} {owner : Address}
    {raffle : Raffle} (h : Creation s now config r owner id raffle s') (other : RaffleId) :
    other ≤ id ↔ other = id ∨ ∃ last, s.last? = some last ∧ other ≤ last := by
  have hnumber := h.number
  rw [Store.last?_of h.configured, ← UInt64.toNat_inj, UInt64.le_iff_toNat_le]
  cases hlast : config.lastRaffle with
  | none =>
      simp only [hlast] at hnumber
      simp only [reduceCtorEq, false_and, exists_false, or_false]
      omega
  | some last =>
      simp only [hlast] at hnumber
      simp only [Option.some.injEq, exists_eq_left', UInt64.le_iff_toNat_le]
      omega

theorem Store.Numbered.change (hs : s.Numbered) (hc : Change s t focus s') : s'.Numbered := by
  intro other
  rcases hc.numbers with ⟨hlast, hstored⟩ | ⟨_, _, _, id, _, entered, hnew, hconfig, hraffles⟩
  · rw [hlast, hstored, hs other]
  · have hle := hnew.le_iff other
    obtain rfl := hnew.store
    rw [hraffles, Store.raffles_putRaffle, Store.last?_of hconfig]
    simp only [Option.some.injEq, exists_eq_left', hle]
    split
    · next heq => simp [heq]
    · next hne =>
      rw [or_iff_right hne]
      exact hs other

theorem Reachable.numbered (h : Reachable clock now s) : s.Numbered := by
  apply h.invariant (P := fun _ s => s.Numbered)
  · rintro now config _ _ hsetup id
    refine iff_of_false nofun ?_
    rintro ⟨last, hlast, _⟩
    rw [Store.last?_of rfl, hsetup.lastRaffle] at hlast
    cases hlast
  · intro now now' s _ hs
    exact hs
  · intro t s s' focus hs hc
    exact hs.change hc

/-! ## The first purchase -/

/-- A raffle that has sold tickets keeps the purchase of its first slot. -/
def Store.Opened (id : RaffleId) (s : Store) : Prop :=
  ∀ r, s.raffles.get? id = some r → r.sold ≠ 0 → ((s.ledger id).get? 0).isSome

theorem Store.Opened.change (hs : s.Opened id) (hc : Change s t focus s') : s'.Opened id := by
  intro r' hr' hsold
  cases hc.raffle id with
  | same raffle ledger _ =>
      rw [ledger]
      exact hs r' (raffle ▸ hr') hsold
  | entered hnew raffle _ _ _ =>
      obtain rfl := Option.some.inj (raffle.symm.trans hr')
      exact absurd (by rw [hnew.entered]) hsold
  | revised kept hrev raffle ledger _ =>
      obtain rfl := Option.some.inj (raffle.symm.trans hr')
      rw [ledger]
      exact hs _ kept (hrev.sold ▸ hsold)
  | @sold _ _ raffle _ hsale _ =>
      rw [hsale.ledger, if_pos rfl, Table.get?_insert]
      by_cases hfirst : raffle.sold = 0
      · rw [if_pos hfirst.symm]
        rfl
      · rw [if_neg (Ne.symm hfirst)]
        exact hs raffle hsale.kept hfirst

theorem Reachable.opened (h : Reachable clock now s) (id : RaffleId) : s.Opened id := by
  apply h.invariant (P := fun _ s => s.Opened id)
  · intro now config _ _ _ r
    nofun
  · intro now now' s _ hs
    exact hs
  · intro t s s' focus hs hc
    exact hs.change hc

end Tombola
