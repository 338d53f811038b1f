import Tombola.Proofs.Settlement
import Tombola.Proofs.Stuck

/-!
# The life of a raffle only moves forward

The phase is not kept but read off the clock and the record. Still a raffle is created, started,
closed, finished and claimed in this order, whatever waiting and turns come in between, and it is
cancelled only before its start or while it is closed. A claim and a cancellation are final.
-/

namespace Tombola

open Contract

namespace Phase

/-- How far along in the life of a raffle a phase is. -/
def rank : Phase → Nat
  | .created => 0
  | .started => 1
  | .closed => 2
  | .finished => 3
  | .claimed => 4
  | .cancelled => 5

/-- How one phase follows another: it stays, it moves on, or the raffle is cancelled before its
start or once it has closed. -/
inductive Moves : Phase → Phase → Prop
  | stay (p : Phase) : Moves p p
  | forward {p q : Phase} (lt : p.rank < q.rank) (ne : q ≠ .cancelled) : Moves p q
  | cancel {p : Phase} (left : p = .created ∨ p = .closed) : Moves p .cancelled

theorem Moves.of_created {q : Phase} (h : q ≠ .cancelled) : Moves .created q := by
  by_cases hq : q = .created
  · rw [hq]
    exact .stay _
  · refine .forward ?_ h
    cases q with
    | created => exact absurd rfl hq
    | _ => decide

/-- A phase comes after another, by any number of moves. -/
def Reaches : Phase → Phase → Prop := Relation.ReflTransGen Moves

end Phase

variable {now now' : Timestamp} {s s' : Store} {t : Turn} {id : RaffleId} {r r' : Raffle}
  {p q : Phase} {steps : List Step}

namespace Raffle

theorem phase?_of_settled (h : ¬r.Unsettled) : r.phase? now' = r.phase? now := by
  unfold phase?
  by_cases hc : r.cancelled = true
  · rw [if_pos hc, if_pos hc]
  · have hd : r.claimed = true := by
      by_contra hd
      exact h ⟨eq_false_of_ne_true hc, eq_false_of_ne_true hd⟩
    rw [if_neg hc, if_neg hc, if_pos hd, if_pos hd]

/-- Past the start of a raffle that is not settled there are three phases left. -/
theorem one_le_rank (hr : r.Unsettled) (hs : r.options.start ≤ now) (h : r.phase? now = some q) :
    1 ≤ q.rank := by
  rw [phase?_eq_some_of_started hr hs] at h
  obtain ⟨c, _, rfl⟩ := h
  split
  · decide
  · split <;> decide

/-- Time moves a raffle forward, and settles nothing. -/
theorem moves_later (hle : now ≤ now') (hp : r.phase? now = some p) (hq : r.phase? now' = some q) :
    p.Moves q ∧ (q = .cancelled → p = .cancelled) := by
  by_cases hr : r.Unsettled
  · obtain ⟨hcancelled, _⟩ := ne_of_unsettled hr hq
    refine ⟨?_, fun h => absurd h hcancelled⟩
    by_cases hs : r.options.start ≤ now
    · obtain ⟨c, hc, hpc⟩ := (phase?_eq_some_of_started hr hs).mp hp
      obtain ⟨c', hc', hqc⟩ := (phase?_eq_some_of_started hr (le_trans hs hle)).mp hq
      obtain rfl := Option.some.inj (hc.symm.trans hc')
      by_cases hclosed : now < c
      · rw [if_pos hclosed] at hpc
        by_cases hlater : now' < c
        · rw [if_pos hlater] at hqc
          rw [← hpc, ← hqc]
          exact .stay _
        · rw [if_neg hlater] at hqc
          refine .forward ?_ hcancelled
          rw [← hpc, ← hqc]
          split <;> decide
      · rw [if_neg hclosed] at hpc
        rw [if_neg (not_lt.mpr (le_trans (not_lt.mp hclosed) hle))] at hqc
        rw [← hpc, ← hqc]
        exact .stay _
    · rw [phase?_of_before_start hr (not_le.mp hs)] at hp
      obtain rfl := Option.some.inj hp
      exact .of_created hcancelled
  · rw [phase?_of_settled hr] at hq
    obtain rfl := Option.some.inj (hp.symm.trans hq)
    exact ⟨.stay _, fun h => h⟩

/-- A change of the record moves the raffle forward. -/
theorem Revision.moves {configured : Option Config} (h : r.Revision configured now r')
    (hp : r.phase? now = some p) (hq : r'.phase? now = some q) : p.Moves q := by
  have hr := h.unsettled
  cases h with
  | modified _ hcreated _ =>
      obtain rfl := Option.some.inj (hcreated.symm.trans hp)
      refine .of_created (ne_of_unsettled ?_ hq).1
      exact hr
  | drawn hclosed =>
      obtain ⟨_, _, c, hc, hle⟩ := phase?_eq_closed.mp hclosed
      obtain rfl := Option.some.inj (hclosed.symm.trans hp)
      obtain rfl := Option.some.inj
        (hq.symm.trans (phase?_eq_finished.mpr ⟨hr, rfl, c, hc, hle⟩))
      exact .forward (by decide) (by decide)
  | cancelled hcancel =>
      obtain rfl := Option.some.inj (hq.symm.trans (phase?_eq_cancelled.mpr rfl))
      apply Phase.Moves.cancel
      rcases hcancel with h | ⟨h, _⟩
      · exact .inl (Option.some.inj (hp.symm.trans h))
      · exact .inr (Option.some.inj (hp.symm.trans h))
  | claimed hfinished _ =>
      obtain rfl := Option.some.inj (hfinished.symm.trans hp)
      obtain rfl := Option.some.inj (hq.symm.trans (phase?_eq_claimed.mpr ⟨hr.1, rfl⟩))
      exact .forward (by decide) (by decide)

end Raffle

namespace Contract

/-- A sale leaves the raffle past its start. -/
theorem Sale.moves {buyer : Address} {count : TicketCount} {price : Coin}
    (h : Sale s now buyer id count r price s') (hp : r.phase? now = some p)
    (hq : (afterSale r now (addClamped r.sold count)).phase? now = some q) : p.Moves q := by
  obtain ⟨hr, hs, _⟩ := Raffle.phase?_eq_started.mp h.started
  have hr' : (afterSale r now (addClamped r.sold count)).Unsettled := unsettled_afterSale.mpr hr
  have hs' : (afterSale r now (addClamped r.sold count)).options.start ≤ now := by
    rwa [afterSale_start]
  have hrank := Raffle.one_le_rank hr' hs' hq
  obtain ⟨hcancelled, _⟩ := Raffle.ne_of_unsettled hr' hq
  obtain rfl := Option.some.inj (h.started.symm.trans hp)
  cases q with
  | created => exact absurd hrank (by decide)
  | started => exact .stay _
  | cancelled => exact absurd rfl hcancelled
  | _ => exact .forward (by decide) (by decide)

theorem minDuration_le_of_check {request : OptionsRequest} {config : Config} {u : Unit}
    (h : request.check config = .ok u) :
    config.minDuration ≤ request.duration.getD config.minDuration := by
  unfold OptionsRequest.check at h
  cases hd : request.duration with
  | none => exact UInt64.le_refl _
  | some d =>
      rw [hd] at h
      obtain ⟨_, hduration, _⟩ := Outcome.bind_eq_ok.mp h
      exact of_decide_eq_true (Outcome.ensure_eq_ok.mp hduration)

/-- A new raffle has not started yet, or sells tickets: it lasts for a second at least. -/
theorem Creation.phase {config : Config} {request : CreateRequest} {owner : Address}
    (h : Creation s now config request owner id r s')
    (hleast : Config.leastMinDuration ≤ config.minDuration) (hq : r.phase? now = some q) :
    q = .created ∨ q = .started := by
  have hduration : 1 ≤ r.options.duration.toNat := by
    have hle := UInt64.le_trans hleast (minDuration_le_of_check h.checked)
    rw [h.entered]
    exact UInt64.le_iff_toNat_le.mp hle
  rcases lt_or_eq_of_le h.now_le_start with hlt | heq
  · rw [Raffle.phase?_of_before_start h.unsettled hlt] at hq
    exact .inl (Option.some.inj hq).symm
  · right
    obtain ⟨c, hc, hq⟩ := (Raffle.phase?_eq_some_of_started h.unsettled (le_of_eq heq.symm)).mp hq
    rw [if_pos] at hq
    · exact hq.symm
    · rw [Raffle.closing?_eq_some] at hc
      have hg : Timestamp.nanosPerSecond = 1000000000 := rfl
      rw [Timestamp.lt_iff, hc, heq, hg]
      omega

end Contract

/-- A turn moves every raffle that it finds forward. -/
theorem Turn.moves {response : Response} (hout : t.outcome s = .ok (s', response))
    (hr : s.raffles.get? id = some r) (hr' : s'.raffles.get? id = some r')
    (hp : r.phase? t.now = some p) (hq : r'.phase? t.now = some q) : p.Moves q := by
  obtain ⟨focus, hc⟩ := Turn.change hout
  cases hc.raffle id with
  | same raffle _ _ =>
      obtain rfl := Option.some.inj (hr'.symm.trans (raffle.trans hr))
      obtain rfl := Option.some.inj (hp.symm.trans hq)
      exact .stay _
  | entered hnew _ _ _ => exact absurd hr (hnew.ne_some r)
  | revised kept hrev raffle _ _ =>
      obtain rfl := Option.some.inj (hr.symm.trans kept)
      obtain rfl := Option.some.inj (hr'.symm.trans raffle)
      exact hrev.moves hp hq
  | sold hsale =>
      obtain rfl := Option.some.inj (hr.symm.trans hsale.kept)
      obtain rfl := Option.some.inj (hr'.symm.trans hsale.record)
      exact hsale.moves hp hq

/-- A turn that enters a raffle leaves it created or started. -/
theorem Turn.enters {response : Response} {clock : Clock} (h : Reachable clock now s)
    (hout : t.outcome s = .ok (s', response)) (hnone : s.raffles.get? id = none)
    (hr : s'.raffles.get? id = some r) (hq : r.phase? t.now = some q) :
    q = .created ∨ q = .started := by
  obtain ⟨focus, hc⟩ := Turn.change hout
  cases hc.raffle id with
  | same raffle _ _ =>
      rw [raffle, hnone] at hr
      cases hr
  | entered hnew raffle _ _ =>
      obtain rfl := Option.some.inj (hr.symm.trans raffle)
      exact hnew.phase (h.valid hnew.configured).minDuration hq
  | revised kept _ _ _ _ =>
      rw [hnone] at kept
      cases kept
  | sold hsale =>
      have hkept := hsale.kept
      rw [hnone] at hkept
      cases hkept

/-- The raffle has come from the phase by moves, or its phase can not be told any more. -/
def Store.Along (now : Timestamp) (id : RaffleId) (p : Phase) (s : Store) : Prop :=
  ∃ r, s.raffles.get? id = some r ∧
    (r.phase? now = none ∨ ∃ q, r.phase? now = some q ∧ p.Reaches q)

namespace Store.Along

/-- A raffle whose phase can not be told is stuck, so it stays like that. -/
theorem later (h : s.Along now id p) (hle : now ≤ now') : s.Along now' id p := by
  obtain ⟨r, hr, hphase⟩ := h
  refine ⟨r, hr, ?_⟩
  cases hlater : r.phase? now' with
  | none => exact .inl rfl
  | some q =>
      right
      rcases hphase with hnone | ⟨q', hq', hreaches⟩
      · have hstuck := (Raffle.phase?_eq_none_iff_stuck.mp hnone).later hle
        exact absurd hlater (hstuck.phase?_ne q)
      · exact ⟨q, rfl, hreaches.tail (Raffle.moves_later hle hq' hlater).1⟩

theorem accept {response : Response} (h : s.Along t.now id p)
    (hout : t.outcome s = .ok (s', response)) : s'.Along t.now id p := by
  obtain ⟨r, hr, hphase⟩ := h
  obtain ⟨focus, hc⟩ := Turn.change hout
  rcases hphase with hnone | ⟨q, hq, hreaches⟩
  · exact ⟨r, hc.keeps_stuck hr (Raffle.phase?_eq_none_iff_stuck.mp hnone), .inl hnone⟩
  · obtain ⟨r', hr'⟩ := hc.stored hr
    refine ⟨r', hr', ?_⟩
    cases hq' : r'.phase? t.now with
    | none => exact .inl rfl
    | some q' => exact .inr ⟨q', rfl, hreaches.tail (Turn.moves hout hr hr' hq hq')⟩

end Store.Along

theorem Run.along (h : Run .forward now s steps now' s') (hs : s.Along now id p) :
    s'.Along now' id p := by
  refine h.preserves (P := fun now s => s.Along now id p) ?_ ?_ hs
  · intro now now' s hle hs
    exact hs.later hle
  · intro t s s' response hs hout
    exact hs.accept hout

/-- Along every run a raffle whose phase can be told, as it can whenever its closing time is in
range, moves forward only: by waiting, which cancels nothing, and by every turn that goes through. A
new raffle is created or started, no raffle is both cancelled and claimed, and either is final. Its
prizes are handed out by one step at most, a claim or a cancellation, and steps that are neither
hand out nothing. -/
theorem life_moves_forward_to_one_settlement (h : Recorded .forward steps now s)
    (id : RaffleId) :
    (∀ r, s.raffles.get? id = some r → ¬(r.cancelled = true ∧ r.claimed = true) ∧
      (r.closing?.isSome → ∀ later, ∃ p, r.phase? later = some p) ∧
      ∀ now' p q, now ≤ now' → r.phase? now = some p → r.phase? now' = some q →
        p.Moves q ∧ (q = .cancelled → p = .cancelled)) ∧
    (∀ (t : Turn) s' response, now ≤ t.now → t.outcome s = .ok (s', response) →
      (∀ r r' p q, s.raffles.get? id = some r → s'.raffles.get? id = some r' →
        r.phase? t.now = some p → r'.phase? t.now = some q → p.Moves q) ∧
      (∀ r q, s.raffles.get? id = none → s'.raffles.get? id = some r →
        r.phase? t.now = some q → q = .created ∨ q = .started)) ∧
    (∀ {steps' now' s'}, Run .forward now s steps' now' s' → ∀ r p,
      s.raffles.get? id = some r → r.phase? now = some p → ∃ r', s'.raffles.get? id = some r' ∧
        (∀ q, r'.phase? now' = some q → p.Reaches q) ∧
        (p = .claimed ∨ p = .cancelled → r' = r)) ∧
    Settlement id steps s ∧
    (∀ step ∈ steps, step.turn.settles? = none → ∀ response, step.response = some response →
      step.turn.TakesOnly response.messages) := by
  refine ⟨?_, ?_, ?_, h.settlement id, h.takes_only⟩
  · intro r hr
    refine ⟨(h.settlement id).flags hr, ?_, fun _ _ _ => Raffle.moves_later⟩
    intro hclosing later
    rw [← Option.isSome_iff_exists, Option.isSome_iff_ne_none]
    intro hnone
    rw [(Raffle.phase?_eq_none.mp hnone).2.2] at hclosing
    cases hclosing
  · intro t s' response _ hout
    exact ⟨fun _ _ _ _ => Turn.moves hout, fun _ _ => Turn.enters h.reachable hout⟩
  · intro steps' now' s' hrun r p hr hp
    obtain ⟨r', hr', hphase⟩ := hrun.along ⟨r, hr, .inr ⟨p, hp, .refl⟩⟩
    refine ⟨r', hr', ?_, ?_⟩
    · intro q hq
      rcases hphase with hnone | ⟨q', hq', hreaches⟩
      · rw [hq] at hnone
        cases hnone
      · obtain rfl := Option.some.inj (hq.symm.trans hq')
        exact hreaches
    · intro hfinal
      have hsettled : ¬r.Unsettled := by
        intro hunsettled
        obtain ⟨hcancelled, hclaimed⟩ := Raffle.ne_of_unsettled hunsettled hp
        exact hfinal.elim hclaimed hcancelled
      exact Option.some.inj (hr'.symm.trans (hrun.keeps_settled hr hsettled))

/-- In the small run the claim moves the finished raffle on, and is the one step that settles it. -/
theorem life_of_sample :
    Settlement 0 (⟨Sample.payout, Sample.payout.response? Sample.drawn⟩ :: Sample.taken)
      Sample.paid ∧
    (∃ r r', Sample.drawn.raffles.get? 0 = some r ∧ Sample.paid.raffles.get? 0 = some r' ∧
      r.phase? Sample.payout.now = some .finished ∧ r'.phase? Sample.payout.now = some .claimed ∧
      Phase.finished.Moves .claimed) ∧
    ∃ r, Sample.created.raffles.get? 0 = some r ∧ r.phase? ⟨5⟩ = some .started := by
  obtain ⟨_, _, _, hsettlement, _⟩ := life_moves_forward_to_one_settlement Sample.paid_recorded 0
  obtain ⟨_, hturn, _⟩ := life_moves_forward_to_one_settlement Sample.drawn_recorded 0
  obtain ⟨effect, heffect⟩ : ∃ effect, Sample.payout.outcome Sample.drawn = .ok effect := ⟨_, rfl⟩
  obtain ⟨r, hr, hp⟩ : ∃ r, Sample.drawn.raffles.get? 0 = some r ∧
      r.phase? Sample.payout.now = some .finished := ⟨_, rfl, by decide⟩
  obtain ⟨r', hr', hq⟩ : ∃ r', Sample.paid.raffles.get? 0 = some r' ∧
      r'.phase? Sample.payout.now = some .claimed := ⟨_, rfl, by decide⟩
  have hpaid : Sample.paid = effect.1 := Turn.after_of_ok heffect
  have hmoves := (hturn Sample.payout effect.1 effect.2 (by decide) heffect).1 r r' _ _ hr
    (hpaid ▸ hr') hp hq
  exact ⟨hsettlement, ⟨r, r', hr, hr', hp, hq, hmoves⟩, _, rfl, by decide⟩

end Tombola
