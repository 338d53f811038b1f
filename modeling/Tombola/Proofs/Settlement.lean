import Tombola.Proofs.Escrow

/-!
# A raffle is settled once

The record of a raffle that is cancelled or claimed never changes again. So over a whole run its
prizes are handed out by one step at most, a cancellation or a claim. Every other step moves tokens
to the contract only, and sends out no more coins than were attached to it.
-/

namespace Tombola

open Contract

/-- The token that a message moves, and the receiver. -/
def Message.moves? : Message → Option (Address × Token)
  | .call collection (.transferToken receiver id) _ => some (receiver, ⟨collection, id⟩)
  | _ => none

/-- The address of the contract, as far as the turn tells. -/
def Turn.self? : Turn → Option Address
  | .execute env _ _ => some env.self
  | _ => none

/-- The step settles the raffle, and it goes through. -/
def Step.Settles (id : RaffleId) (step : Step) : Prop :=
  step.turn.settles? = some id ∧ step.response.isSome

/-- The step hands out the prizes of a raffle: to the owner, beside the payments back to the buyers,
when it is cancelled, and to the winner, beside the proceeds, when it is claimed. -/
inductive Step.HandsOut (s : Store) (id : RaffleId) (r : Raffle) : Step → Prop
  | cancel {env : Surroundings} {caller : Caller} {response : Response} {refunds : List Message}
      (flags : r.cancelled = true ∧ r.claimed = false)
      (refund : refundMessages s id r = .ok refunds)
      (messages : response.messages = prizeMessages r r.owner ++ refunds) :
      HandsOut s id r ⟨.execute env caller (.cancel id), some response⟩
  | claim {env : Surroundings} {caller : Caller} {response : Response} {config : Config}
      {proceeds : List Message} (flags : r.cancelled = false ∧ r.claimed = true)
      (proceed : proceedsMessages config r = .ok proceeds)
      (messages : response.messages = prizeMessages r (r.winner.getD r.owner) ++ proceeds) :
      HandsOut s id r ⟨.execute env caller (.claim id), some response⟩

/-- What a run has settled of a raffle: nothing, or it was settled by one step, which has handed out
the prizes. -/
inductive Settlement (id : RaffleId) (steps : List Step) (s : Store) : Prop
  | pending (none : ∀ step ∈ steps, ¬step.Settles id)
      (unsettled : ∀ r, s.raffles.get? id = some r → r.Unsettled)
  | done {later earlier : List Step} {step : Step} {r : Raffle}
      (taken : steps = later ++ step :: earlier) (settles : step.Settles id)
      (others : ∀ other ∈ later ++ earlier, ¬other.Settles id)
      (kept : s.raffles.get? id = some r) (handed : step.HandsOut s id r)

/-- The messages of a turn send out no more coins than are attached to it, and move tokens to the
contract only. -/
structure Turn.TakesOnly (t : Turn) (messages : List Message) : Prop where
  coins : ∀ d, Message.total messages d ≤ Coin.total t.funds d
  tokens : ∀ m ∈ messages, ∀ receiver token, m.moves? = some (receiver, token) →
    t.self? = some receiver

variable {clock : Clock} {now now' : Timestamp} {s s' : Store} {t : Turn} {focus : Option RaffleId}
  {id : RaffleId} {r r' : Raffle} {steps : List Step} {response : Response}

/-! ## What is settled stays -/

theorem Step.HandsOut.not_unsettled {step : Step} (h : step.HandsOut s id r) : ¬r.Unsettled := by
  rintro ⟨hcancelled, hclaimed⟩
  cases h with
  | cancel flags => exact absurd (flags.1.symm.trans hcancelled) (by simp)
  | claim flags => exact absurd (flags.2.symm.trans hclaimed) (by simp)

/-- What a step has handed out is told by the record and the ledger. -/
theorem Step.HandsOut.of_ledger {step : Step} (h : step.HandsOut s id r)
    (hledger : s'.ledger id = s.ledger id) : step.HandsOut s' id r := by
  cases h with
  | cancel flags refund messages =>
      refine .cancel flags ?_ messages
      rw [refundMessages, hledger]
      exact refund
  | claim flags proceed messages => exact .claim flags proceed messages

/-- No change touches the record or the ledger of a raffle that is settled. -/
theorem Change.keeps_settled (hc : Change s t focus s') (hr : s.raffles.get? id = some r)
    (hsettled : ¬r.Unsettled) : s'.raffles.get? id = some r ∧ s'.ledger id = s.ledger id := by
  cases hc.raffle id with
  | same raffle ledger _ => exact ⟨raffle.trans hr, ledger⟩
  | entered hnew _ _ _ => exact absurd hr (hnew.ne_some r)
  | revised kept hrev _ _ _ =>
      obtain rfl := Option.some.inj (hr.symm.trans kept)
      exact absurd hrev.unsettled hsettled
  | sold hsale =>
      obtain rfl := Option.some.inj (hr.symm.trans hsale.kept)
      exact absurd (Raffle.phase?_eq_started.mp hsale.started).1 hsettled

theorem Run.keeps_settled (h : Run clock now s steps now' s') (hr : s.raffles.get? id = some r)
    (hsettled : ¬r.Unsettled) : s'.raffles.get? id = some r := by
  refine h.keeps (P := fun _ s => s.raffles.get? id = some r) ?_ ?_ hr
  · intro now now' s _ hr
    exact hr
  · intro t s s' focus hr hc
    exact (hc.keeps_settled hr hsettled).1

/-- A raffle is settled only by a turn that settles it. -/
theorem Change.stays_unsettled (hc : Change s t focus s') (ht : t.settles? ≠ some id)
    (h : ∀ r, s.raffles.get? id = some r → r.Unsettled) (hr : s'.raffles.get? id = some r) :
    r.Unsettled := by
  by_cases hid : focus = some id
  · subst hid
    cases hc with
    | creation hnew =>
        obtain rfl := Option.some.inj (hr.symm.trans hnew.record)
        exact hnew.unsettled
    | autocycle hnew hcycle =>
        obtain rfl := Option.some.inj (hr.symm.trans (hcycle.record hnew.record))
        exact hnew.unsettled
    | modification hm =>
        obtain rfl := Option.some.inj (hr.symm.trans hm.record)
        have hopen := h _ hm.kept
        exact hopen
    | sale hsale =>
        obtain rfl := Option.some.inj (hr.symm.trans hsale.record)
        exact unsettled_afterSale.mpr (h _ hsale.kept)
    | inquiry hask =>
        obtain rfl := Option.some.inj (hr.symm.trans hask.record)
        exact h _ hask.kept
    | draw hdraw =>
        obtain rfl := Option.some.inj (hr.symm.trans hdraw.record)
        have hopen := h _ hdraw.kept
        exact hopen
    | cancellation _ turn => exact absurd turn ht
    | claim _ turn => exact absurd turn ht
  · rw [(hc.agree hid).raffle] at hr
    exact h r hr

/-! ## One step settles a raffle -/

/-- A turn that settles a raffle finds it unsettled and hands out its prizes. -/
theorem Turn.hands_out (ht : t.settles? = some id) (hout : t.outcome s = .ok (s', response)) :
    (∃ r, s.raffles.get? id = some r ∧ r.Unsettled) ∧
      ∃ r', s'.raffles.get? id = some r' ∧ Step.HandsOut s' id r' ⟨t, some response⟩ := by
  cases t with
  | execute env caller request =>
      cases request with
      | cancel id =>
          obtain rfl := Option.some.inj ht
          obtain ⟨raffle, refunds, hcancel, hrefunds, hmessages⟩ := cancel_eq_ok hout
          obtain ⟨hcancelled, hclaimed⟩ := Raffle.unsettled_of_cancellable hcancel.cancellable
          refine ⟨⟨raffle, hcancel.kept, hcancelled, hclaimed⟩, _, hcancel.record,
            .cancel ⟨rfl, hclaimed⟩ ?_ hmessages⟩
          rw [refundMessages, hcancel.store, Store.ledger_clearJob, Store.ledger_putRaffle]
          exact hrefunds
      | claim id =>
          obtain rfl := Option.some.inj ht
          obtain ⟨config, raffle, proceeds, hclaim, _, hproceeds, hmessages⟩ := claim_eq_ok hout
          obtain ⟨hcancelled, hclaimed⟩ := (Raffle.phase?_eq_finished.mp hclaim.finished).1
          exact ⟨⟨raffle, hclaim.kept, hcancelled, hclaimed⟩, _, hclaim.record,
            .claim ⟨hcancelled, rfl⟩ hproceeds hmessages⟩
      | _ => cases ht
  | govern _ _ => cases ht
  | migrate _ => cases ht

namespace Settlement

theorem accept (h : Settlement id steps s) (hout : t.outcome s = .ok (s', response)) :
    Settlement id (⟨t, some response⟩ :: steps) s' := by
  obtain ⟨focus, hc⟩ := Turn.change hout
  by_cases ht : t.settles? = some id
  · obtain ⟨⟨r, hr, hunsettled⟩, r', hr', hhands⟩ := Turn.hands_out ht hout
    cases h with
    | pending hnone _ =>
        have htaken : (⟨t, some response⟩ : Step) :: steps =
            [] ++ ⟨t, some response⟩ :: steps := rfl
        exact .done htaken ⟨ht, rfl⟩ hnone hr' hhands
    | done _ _ _ hkept hhanded =>
        obtain rfl := Option.some.inj (hr.symm.trans hkept)
        exact absurd hunsettled hhanded.not_unsettled
  · have hother : ¬Step.Settles id ⟨t, some response⟩ := fun hsettles => ht hsettles.1
    cases h with
    | pending hnone hunsettled =>
        apply Settlement.pending
        · intro step hstep
          rcases List.mem_cons.mp hstep with rfl | hstep
          · exact hother
          · exact hnone step hstep
        · intro r hr
          exact hc.stays_unsettled ht hunsettled hr
    | @done later earlier step r htaken hsettles hothers hkept hhanded =>
        obtain ⟨hkept', hledger⟩ := hc.keeps_settled hkept hhanded.not_unsettled
        have htaken' : (⟨t, some response⟩ : Step) :: steps =
            (⟨t, some response⟩ :: later) ++ step :: earlier := by
          rw [htaken]
          rfl
        refine .done htaken' hsettles ?_ hkept' (hhanded.of_ledger hledger)
        intro other hmem
        rcases List.mem_cons.mp hmem with rfl | hmem
        · exact hother
        · exact hothers other hmem

theorem reject (h : Settlement id steps s) : Settlement id (⟨t, none⟩ :: steps) s := by
  have hother : ¬Step.Settles id ⟨t, none⟩ := by
    rintro ⟨_, hnone⟩
    cases hnone
  cases h with
  | pending hnone hunsettled =>
      refine .pending ?_ hunsettled
      intro step hstep
      rcases List.mem_cons.mp hstep with rfl | hstep
      · exact hother
      · exact hnone step hstep
  | @done later earlier step r htaken hsettles hothers hkept hhanded =>
      have htaken' : (⟨t, none⟩ : Step) :: steps = (⟨t, none⟩ :: later) ++ step :: earlier := by
        rw [htaken]
        rfl
      refine .done htaken' hsettles ?_ hkept hhanded
      intro other hmem
      rcases List.mem_cons.mp hmem with rfl | hmem
      · exact hother
      · exact hothers other hmem

/-- No raffle is both cancelled and claimed. -/
theorem flags (h : Settlement id steps s) (hr : s.raffles.get? id = some r) :
    ¬(r.cancelled = true ∧ r.claimed = true) := by
  rintro ⟨hcancelled, hclaimed⟩
  cases h with
  | pending _ hunsettled => exact absurd ((hunsettled r hr).1.symm.trans hcancelled) (by simp)
  | done _ _ _ hkept hhanded =>
      obtain rfl := Option.some.inj (hr.symm.trans hkept)
      cases hhanded with
      | cancel hflags => exact absurd (hflags.2.symm.trans hclaimed) (by simp)
      | claim hflags => exact absurd (hflags.1.symm.trans hcancelled) (by simp)

end Settlement

theorem Recorded.settlement (h : Recorded clock steps now s) (id : RaffleId) :
    Settlement id steps s := by
  apply h.invariant (P := fun steps _ s => Settlement id steps s)
  · intro now config _ _ _
    refine .pending (fun _ hmem => absurd hmem List.not_mem_nil) ?_
    intro r hr
    cases hr
  · intro steps now now' s _ hs
    exact hs
  · intro steps now t s s' response _ _ hs hout
    exact hs.accept hout
  · intro steps t s hs
    exact hs.reject

/-! ## Other steps hand out nothing -/

namespace Turn.TakesOnly

theorem of_nil (h : response.messages = []) : t.TakesOnly response.messages := by
  rw [h]
  exact ⟨fun _ => Nat.zero_le _, fun _ hmem => absurd hmem List.not_mem_nil⟩

/-- A request for randomness hands on the fee that is attached. -/
theorem of_request {config : Config} {attempt : UInt32}
    (hmessages : response.messages = [(requestRandomness s now config id attempt none).2.2])
    (hfee : Payment.oracleFee t.funds config.oracleFee = .ok ()) :
    t.TakesOnly response.messages := by
  constructor
  · intro d
    rw [hmessages, total_request, Payment.total_of_oracleFee hfee d]
  · intro m hm receiver token hmoves
    rw [hmessages, List.mem_singleton] at hm
    rw [hm] at hmoves
    cases hmoves

theorem of_create {env : Surroundings} {caller : Caller} {r : CreateRequest}
    (h : create s env caller r = .ok (s', response)) :
    (Turn.execute env caller (.create r)).TakesOnly response.messages := by
  obtain ⟨_, _, messages, _, _, _, _, hnew, _, hcollect, _, hrest⟩ := create_eq_ok h
  have htokens : ∀ m ∈ messages, ∀ receiver token, m.moves? = some (receiver, token) →
      some env.self = some receiver := by
    intro m hm receiver token hmoves
    rcases collect_messages hcollect m hm with ⟨prize, _, _, rfl⟩ | ⟨fee, _, rfl⟩
    · cases prize with
      | coin c => cases hmoves
      | _ =>
          obtain ⟨rfl, _⟩ := Prod.mk.inj (Option.some.inj hmoves)
          rfl
    · cases hmoves
  constructor
  · intro d
    have hbalance := create_balanced h d
    have hle : s.escrow d ≤ s'.escrow d := by
      have hentered := hnew.escrow d
      rcases hrest with ⟨_, rfl, _⟩ | ⟨closing, _, hcycle, _⟩
      · omega
      · have hsame := Store.escrow_congr (d := d) (congrArg Store.raffles hcycle.store)
        rw [Store.escrow_congr (raffles_requestRandomness _ _ _ _ _ _)] at hsame
        omega
    have hfunds : Turn.funds (.execute env caller (.create r)) = caller.funds := rfl
    rw [hfunds]
    omega
  · intro m hm
    rcases hrest with ⟨_, _, hmessages⟩ | ⟨closing, _, _, hmessages⟩
    · exact htokens m (hmessages ▸ hm)
    · rw [hmessages, List.mem_append, List.mem_singleton] at hm
      rcases hm with hm | rfl
      · exact htokens m hm
      · intro receiver token hmoves
        cases hmoves

end Turn.TakesOnly

/-- A turn that settles nothing hands nothing out. -/
theorem Turn.takes_only (ht : t.settles? = none) (hout : t.outcome s = .ok (s', response)) :
    t.TakesOnly response.messages := by
  cases hsilent : t.silent with
  | true => exact .of_nil (Turn.messages_of_silent hsilent hout)
  | false =>
      cases t with
      | execute env caller request =>
          cases request with
          | create r => exact .of_create hout
          | cancel id => cases ht
          | claim id => cases ht
          | determineWinner id =>
              rcases determineWinner_eq_ok hout with ⟨_, hmessages⟩ | ⟨_, _, _, hfee, hmessages⟩
              · constructor
                · intro d
                  rw [hmessages, total_returned]
                  exact le_refl _
                · intro m hm receiver token hmoves
                  rw [hmessages] at hm
                  split at hm
                  · cases hm
                  · rw [List.mem_singleton] at hm
                    rw [hm] at hmoves
                    cases hmoves
              · exact .of_request hmessages hfee
          | updateRandomness id =>
              obtain ⟨_, _, _, _, _, hfee, hmessages⟩ := updateRandomness_eq_ok hout
              exact .of_request hmessages hfee
          | _ => cases hsilent
      | govern _ _ => cases hsilent
      | migrate _ => cases hsilent

theorem Recorded.takes_only (h : Recorded clock steps now s) :
    ∀ step ∈ steps, step.turn.settles? = none → ∀ response, step.response = some response →
      step.turn.TakesOnly response.messages := by
  apply h.invariant (P := fun steps _ _ => ∀ step ∈ steps, step.turn.settles? = none →
    ∀ response, step.response = some response → step.turn.TakesOnly response.messages)
  · intro now config _ _ _ step hmem
    exact absurd hmem List.not_mem_nil
  · intro steps now now' s _ hs
    exact hs
  · intro steps now t s s' response _ _ hs hout step hstep ht response' hresponse
    rcases List.mem_cons.mp hstep with rfl | hstep
    · obtain rfl := Option.some.inj hresponse
      exact Turn.takes_only ht hout
    · exact hs step hstep ht response' hresponse
  · intro steps t s hs step hstep ht response hresponse
    rcases List.mem_cons.mp hstep with rfl | hstep
    · cases hresponse
    · exact hs step hstep ht response hresponse

end Tombola
