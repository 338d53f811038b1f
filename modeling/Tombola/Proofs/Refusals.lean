import Tombola.Proofs.Entries
import Tombola.Proofs.Winner

/-!
# What requests are refused for

Some refusals blame the store: it keeps a raffle under the id of a new one, or no purchase at or
below a slot that was sold, or the randomness of a raffle that has not been drawn, or not the job
that a raffle waits for. The store that a request meets decides whether it can be refused for one of
these reasons; all other steps of a request are refused for other reasons.
-/

namespace Tombola

open Contract

/-- The refusal blames the store for contradicting itself. -/
def Refusal.BlamesStore : Refusal → Prop
  | .raffleExists => True
  | .inconsistent => True
  | .alreadyDrawn => True
  | .missing (.job _) => True
  | _ => False

/-- The refusal does not blame the store. -/
def Refusal.Blameless (cause : Refusal) : Prop := ¬cause.BlamesStore

namespace Outcome

variable {α β : Type} {allowed : Refusal → Prop}

/-- When the outcome is a refusal, its cause is one of those allowed. -/
def RefusesOnly (allowed : Refusal → Prop) (x : Outcome α) : Prop :=
  ∀ cause, x = .error (.refused cause) → allowed cause

/-- The outcome is not a refusal that blames the store. -/
abbrev Blameless (x : Outcome α) : Prop := x.RefusesOnly Refusal.Blameless

namespace RefusesOnly

variable {x : Outcome α} {f : α → Outcome β} {cause : Refusal}

@[simp] theorem of_ok (a : α) : RefusesOnly allowed (.ok a) := nofun

@[simp] theorem of_pure (a : α) : RefusesOnly allowed (pure a) := nofun

@[simp] theorem of_aborted : RefusesOnly allowed (.error .aborted : Outcome α) := nofun

@[simp] theorem refuse_iff : RefusesOnly allowed (refuse cause : Outcome α) ↔ allowed cause := by
  simp [RefusesOnly, refuse]

@[simp] theorem of_orAbort (o : Option α) : RefusesOnly allowed (orAbort o) := by
  cases o <;> simp [orAbort]

theorem of_orRefuse (o : Option α) (h : allowed cause) :
    RefusesOnly allowed (orRefuse cause o) := by
  cases o <;> simp [orRefuse, h]

theorem of_ensure (condition : Bool) (h : allowed cause) :
    RefusesOnly allowed (ensure condition cause) := by
  cases condition <;> simp [ensure, h]

theorem of_mapError {ε : Type} {x : Except ε α} {cause : ε → Refusal}
    (h : ∀ e, x = .error e → allowed (cause e)) :
    RefusesOnly allowed (x.mapError fun e => .refused (cause e)) := by
  cases x with
  | ok a => exact of_ok a
  | error e =>
      rintro _ ⟨⟩
      exact h e rfl

theorem bind (hx : x.RefusesOnly allowed) (hf : ∀ a, x = .ok a → (f a).RefusesOnly allowed) :
    (x >>= f).RefusesOnly allowed := by
  cases x with
  | ok a => exact hf a rfl
  | error fault =>
      intro cause h
      exact hx cause (by cases h; rfl)

/-- What comes after a step need not be looked at together with it. -/
theorem next (hx : x.RefusesOnly allowed) (hf : ∀ a, (f a).RefusesOnly allowed) :
    (x >>= f).RefusesOnly allowed := hx.bind fun a _ => hf a

/-- Two ways to do a step that go on in the same way. -/
theorem next_of_ite {c : Prop} [Decidable c] {y : Outcome α} (hx : x.RefusesOnly allowed)
    (hy : y.RefusesOnly allowed) (hf : ∀ a, (f a).RefusesOnly allowed) :
    (if c then x >>= f else y >>= f).RefusesOnly allowed := by
  split
  · exact hx.next hf
  · exact hy.next hf

/-- A step and a check of what it gives, made only under a condition. -/
theorem next_of_when {c : Prop} [Decidable c] {check : α → Outcome Unit} {g : Unit → Outcome β}
    (hx : x.RefusesOnly allowed) (hcheck : ∀ a, (check a).RefusesOnly allowed)
    (hg : ∀ u, (g u).RefusesOnly allowed) :
    (if c then x >>= fun a => check a >>= g else g ()).RefusesOnly allowed := by
  split
  · exact hx.next fun a => (hcheck a).next hg
  · exact hg ()

theorem map (hx : x.RefusesOnly allowed) (g : α → β) : (g <$> x).RefusesOnly allowed := by
  cases x with
  | ok a => exact of_ok (g a)
  | error fault =>
      intro cause h
      exact hx cause (by cases h; rfl)

theorem mapM {as : List α} (h : ∀ a ∈ as, (f a).RefusesOnly allowed) :
    (as.mapM f).RefusesOnly allowed := by
  induction as with
  | nil => exact of_pure []
  | cons a as ih =>
      rw [List.mapM_cons]
      refine (h a List.mem_cons_self).next fun b => ?_
      exact (ih fun a' ha' => h a' (List.mem_cons_of_mem _ ha')).next fun _ => of_pure _

end RefusesOnly

end Outcome

/-- A question for the owner of a token fails because it is not answered, or not in a way that
decodes. -/
def Surroundings.Answering (env : Surroundings) : Prop :=
  ∀ collection token cause, env.ownerOf collection token = .error cause →
    cause = .undecodable ∨ ∃ flaw, cause = .lookup flaw

namespace Contract

open Outcome RefusesOnly

variable {s : Store} {now : Timestamp} {config : Config} {env : Surroundings} {caller : Caller}
  {id : RaffleId} {r : Raffle}

theorem getConfig_blameless (s : Store) : s.getConfig.Blameless := of_orRefuse _ not_false

theorem getRaffle_blameless (s : Store) (id : RaffleId) : (s.getRaffle id).Blameless :=
  of_orRefuse _ not_false

theorem ownedRaffle_blameless (s : Store) (id : RaffleId) (sender : Address) :
    (s.ownedRaffle id sender).Blameless := by
  refine (getRaffle_blameless s id).next fun raffle => ?_
  exact (of_ensure _ not_false).next fun _ => of_pure raffle

theorem ensurePhase_blameless (r : Raffle) (now : Timestamp) (phase : Phase) (action : Action) :
    (ensurePhase r now phase action).Blameless :=
  (of_orAbort _).next fun _ => of_ensure _ not_false

theorem validate_blameless (a : Address) : a.validate.Blameless :=
  of_mapError fun _ _ => not_false

/-! ## Creations -/

theorem checkPrice_blameless (price : Asset) : (checkPrice price).Blameless := by
  cases price with
  | coin c => exact of_ensure _ not_false
  | cw721 _ => exact refuse_iff.mpr not_false
  | sg721 _ => exact refuse_iff.mpr not_false

theorem checkOptions_blameless (r : OptionsRequest) (config : Config) :
    (r.check config).Blameless := by
  have hduration (met : Bool) : (ensure met (.durationTooShort config.minDuration)).Blameless :=
    of_ensure met not_false
  have htimeout (met : Bool) : (ensure met (.timeoutTooShort config.minTimeout)).Blameless :=
    of_ensure met not_false
  have hcomment (met : Bool) (size max : Nat) :
      (ensure met (.commentTooLarge size max)).Blameless := of_ensure met not_false
  unfold OptionsRequest.check
  cases r.duration <;> cases r.timeout <;> cases r.comment <;>
    simp [next, hduration, htimeout, hcomment]

theorem namedOwner_blameless (named : Option Address) (otherwise : Address) :
    (namedOwner named otherwise).Blameless := by
  cases named with
  | none => exact of_pure otherwise
  | some a => exact validate_blameless a

theorem createChecks_blameless (s : Store) (caller : Caller) (r : CreateRequest) :
    (createChecks s caller r).Blameless := by
  refine (getConfig_blameless s).next fun config => ?_
  refine (of_ensure _ not_false).next fun _ => ?_
  refine RefusesOnly.next ?_ fun _ => ?_
  · refine (of_ensure _ not_false).next fun _ => ?_
    exact (of_ensure _ not_false).next fun _ => of_ensure _ not_false
  · refine (checkPrice_blameless r.price).next fun _ => ?_
    refine (checkOptions_blameless r.options config).next fun _ => ?_
    exact (of_orRefuse _ not_false).next fun purse => of_pure (config, purse)

theorem take_blameless (purse : Purse) (coin : Coin) : (Payment.take purse coin).Blameless :=
  of_orRefuse _ not_false

theorem ensureOwner_blameless (henv : env.Answering) (sender : Address) (token : Token) :
    (env.ensureOwner sender token).Blameless := by
  refine RefusesOnly.next (of_mapError ?_) fun owner => of_ensure _ not_false
  intro cause howner
  obtain rfl | ⟨flaw, rfl⟩ := henv _ _ _ howner
  · exact not_false
  · exact not_false

theorem takePrizes_blameless (henv : env.Answering) (sender : Address) (prizes : List Asset)
    (purse : Purse) : (takePrizes env sender prizes purse).Blameless := by
  induction prizes generalizing purse with
  | nil => exact of_pure ([], purse)
  | cons asset rest ih =>
      cases asset with
      | coin c => exact (take_blameless purse c).next fun purse => ih purse
      | cw721 t =>
          refine (ensureOwner_blameless henv sender t).next fun _ => ?_
          exact (ih purse).next fun _ => of_pure _
      | sg721 t =>
          refine (ensureOwner_blameless henv sender t).next fun _ => ?_
          exact (ih purse).next fun _ => of_pure _

theorem collect_blameless (henv : env.Answering) (config : Config) (caller : Caller)
    (r : CreateRequest) (purse : Purse) : (collect env config caller r purse).Blameless := by
  have hempty (messages : List Message) (purse : Purse) :
      (do ensure purse.isEmpty (.invalidAssets (.surplus purse.toList))
          pure messages : Outcome (List Message)).Blameless :=
    (of_ensure _ not_false).next fun _ => of_pure messages
  refine (takePrizes_blameless henv caller.address r.prizes purse).next fun taken => ?_
  refine next_of_ite (take_blameless _ _) (of_pure _) fun purse => ?_
  refine RefusesOnly.next (of_orRefuse _ not_false) fun fee => ?_
  cases fee with
  | none => exact (of_pure _).next fun _ => hempty _ _
  | some fee =>
      refine (take_blameless purse fee).next fun _ => ?_
      exact (of_pure _).next fun _ => hempty _ _

theorem ensureFree_blameless (h : s.raffles.get? id = none) :
    (ensure (s.raffles.get? id).isNone .raffleExists).Blameless := by
  rw [h]
  exact of_ok ()

/-- A raffle that is entered takes the id after the last, which is free. -/
theorem enterRaffle_blameless (hs : s.Numbered) (now : Timestamp) (config : Config)
    (owner : Address) (prizes : List Asset) (price : Asset) (options : OptionsRequest) :
    (enterRaffle s now config owner prizes price options).Blameless := by
  refine RefusesOnly.bind (getConfig_blameless s) fun kept hkept => ?_
  have hlast? := Store.last?_of (orRefuse_eq_ok.mp hkept)
  cases hlast : kept.lastRaffle with
  | none =>
      have hfree : s.raffles.get? 0 = none := hs.get?_eq_none (by simp [hlast?, hlast])
      refine (of_pure (some 0)).bind fun next hnext => ?_
      obtain rfl := pure_eq_ok.mp hnext
      refine (of_ok 0).bind fun id hid => ?_
      obtain rfl := Except.ok.inj hid
      exact (ensureFree_blameless hfree).next fun _ => of_pure _
  | some last =>
      dsimp only
      split
      · next hlt =>
        have hfree : s.raffles.get? (last + 1) = none := by
          apply hs.get?_eq_none
          rw [hlast?, hlast]
          rintro _ ⟨⟩
          rw [UInt64.le_iff_toNat_le, UInt64.toNat_add, UInt64.toNat_one, Nat.mod_eq_of_lt hlt]
          exact Nat.not_succ_le_self _
        refine (of_pure (some (last + 1))).bind fun next hnext => ?_
        obtain rfl := pure_eq_ok.mp hnext
        refine (of_ok (last + 1)).bind fun id hid => ?_
        obtain rfl := Except.ok.inj hid
        exact (ensureFree_blameless hfree).next fun _ => of_pure _
      · exact of_aborted.bind nofun

theorem create_blameless (hs : s.Numbered) (henv : env.Answering) (caller : Caller)
    (r : CreateRequest) : (create s env caller r).Blameless := by
  refine (createChecks_blameless s caller r).next fun checked => ?_
  refine (collect_blameless henv _ caller r _).next fun messages => ?_
  refine (namedOwner_blameless _ _).next fun owner => ?_
  refine (enterRaffle_blameless hs _ _ _ _ _ _).next fun entered => ?_
  dsimp only
  split
  · exact (of_orAbort _).next fun _ => of_pure _
  · exact of_pure _

theorem deposit_blameless (hs : s.Numbered) (env : Surroundings) (caller : Caller)
    (d : DepositRequest) : (deposit s env caller d).Blameless := by
  refine (validate_blameless d.sender).next fun sender => ?_
  refine RefusesOnly.next (of_orRefuse _ not_false) fun request => ?_
  cases request with
  | create r =>
      refine (getConfig_blameless s).next fun config => ?_
      refine (of_ensure _ not_false).next fun _ => ?_
      refine (of_ensure _ not_false).next fun _ => ?_
      refine (checkPrice_blameless r.price).next fun _ => ?_
      refine (checkOptions_blameless r.options config).next fun _ => ?_
      refine RefusesOnly.next (of_orRefuse _ not_false) fun _ => ?_
      refine (of_ensure _ not_false).next fun _ => ?_
      refine (namedOwner_blameless r.owner sender).next fun owner => ?_
      exact (enterRaffle_blameless hs _ _ _ _ _ _).next fun _ => of_pure _
  | _ => exact refuse_iff.mpr not_false

/-! ## Sales and settlements -/

theorem ticketCost_blameless (r : Raffle) (count : TicketCount) :
    (ticketCost r count).Blameless := by
  unfold ticketCost
  split
  · exact RefusesOnly.next (of_orRefuse _ not_false) fun _ => of_pure _
  · exact refuse_iff.mpr not_false

theorem ensureWithin_blameless (limit : Option TicketCount) (scope : LimitScope)
    (before after : TicketCount) : (ensureWithin limit scope before after).Blameless := by
  cases limit with
  | none => exact of_pure ()
  | some most => exact of_ensure _ not_false

theorem statedPayment_blameless (caller : Caller) (payment : Asset) (cost : Coin) :
    (statedPayment caller payment cost).Blameless := by
  have hfunds (sent : Coin) : (do
      ensure (caller.funds = [sent]) (.invalidAssets .fundsDiffer)
      pure sent : Outcome Coin).Blameless := (of_ensure _ not_false).next fun _ => of_pure sent
  have hother : (refuse (.invalidAssets (.wrongDenom cost.denom)) : Outcome Coin).Blameless :=
    refuse_iff.mpr not_false
  cases payment with
  | coin c => exact next_of_ite (of_pure c) hother hfunds
  | cw721 _ => exact hother.next hfunds
  | sg721 _ => exact hother.next hfunds

theorem buy_blameless (s : Store) (env : Surroundings) (caller : Caller) (r : BuyRequest) :
    (buy s env caller r).Blameless := by
  refine (getConfig_blameless s).next fun config => ?_
  refine (of_ensure _ not_false).next fun _ => ?_
  refine (getRaffle_blameless s r.raffle).next fun raffle => ?_
  refine (ensurePhase_blameless _ _ _ _).next fun _ => ?_
  refine (of_ensure _ not_false).next fun _ => ?_
  refine (ticketCost_blameless raffle r.count).next fun cost => ?_
  refine (statedPayment_blameless caller r.payment cost).next fun sent => ?_
  refine (of_ensure _ not_false).next fun _ => ?_
  refine (of_ensure _ not_false).next fun _ => ?_
  refine RefusesOnly.next ?_ fun entered => of_pure _
  refine (ensureWithin_blameless _ _ _ _).next fun _ => ?_
  exact (ensureWithin_blameless _ _ _ _).next fun _ => of_pure _

theorem outstanding_blameless (hs : s.Matched) (id : RaffleId) : (s.outstanding id).Blameless := by
  unfold Store.outstanding
  split
  · exact of_pure none
  · next j hj =>
    obtain ⟨job, hjob, _⟩ := hs.awaited_iff.mp hj
    rw [hjob]
    exact of_pure (some (j, job))

theorem modify_blameless (hs : s.Matched) (env : Surroundings) (caller : Caller)
    (r : ModifyRequest) : (Contract.modify s env caller r).Blameless := by
  refine (ownedRaffle_blameless s r.raffle caller.address).next fun raffle => ?_
  refine (getConfig_blameless s).next fun config => ?_
  refine (ensurePhase_blameless _ _ _ _).next fun _ => ?_
  refine (checkOptions_blameless r.options config).next fun _ => ?_
  refine next_of_when (outstanding_blameless hs r.raffle) (fun _ => of_ensure _ not_false)
    fun _ => ?_
  cases r.price with
  | none => exact (of_pure _).next fun _ => of_pure _
  | some price =>
      refine (checkPrice_blameless price).next fun _ => ?_
      exact (of_pure _).next fun _ => of_pure _

theorem refundMessages_blameless (s : Store) (id : RaffleId) (r : Raffle) :
    (refundMessages s id r).Blameless :=
  RefusesOnly.mapM fun p _ => (ticketCost_blameless r p.count).next fun _ => of_pure _

theorem timedOut_blameless (r : Raffle) (now : Timestamp) : (timedOut r now).Blameless :=
  (of_orAbort _).next fun _ => (of_orAbort _).next fun _ => of_pure _

theorem cancel_blameless (s : Store) (env : Surroundings) (caller : Caller) (id : RaffleId) :
    (cancel s env caller id).Blameless := by
  refine (ownedRaffle_blameless s id caller.address).next fun raffle => ?_
  refine RefusesOnly.next ?_ fun _ => (refundMessages_blameless _ _ _).next fun _ => of_pure _
  refine (of_orAbort _).next fun phase => ?_
  cases phase with
  | created => exact of_pure ()
  | closed => exact (timedOut_blameless raffle env.now).next fun _ => of_ensure _ not_false
  | _ => exact refuse_iff.mpr not_false

theorem proceedsMessages_blameless (config : Config) (r : Raffle) :
    (proceedsMessages config r).Blameless :=
  (ticketCost_blameless r r.sold).next fun _ => (of_orAbort _).next fun _ => of_pure _

theorem claim_blameless (s : Store) (env : Surroundings) (id : RaffleId) :
    (claim s env id).Blameless := by
  refine (getConfig_blameless s).next fun config => ?_
  refine (getRaffle_blameless s id).next fun raffle => ?_
  refine (ensurePhase_blameless _ _ _ _).next fun _ => ?_
  exact (proceedsMessages_blameless config raffle).next fun _ => of_pure _

/-! ## Randomness -/

theorem oracleFee_blameless (funds : List Coin) (fee : Coin) :
    (Payment.oracleFee funds fee).Blameless := by
  refine (of_ensure _ not_false).next fun _ => ?_
  split
  · exact of_pure ()
  · exact refuse_iff.mpr not_false

theorem determineWinner_blameless (hs : s.Matched) (env : Surroundings) (caller : Caller)
    (id : RaffleId) : (determineWinner s env caller id).Blameless := by
  refine (getConfig_blameless s).next fun config => ?_
  refine (getRaffle_blameless s id).next fun raffle => ?_
  refine (ensurePhase_blameless _ _ _ _).next fun _ => ?_
  refine (outstanding_blameless hs id).next fun o => ?_
  cases o with
  | none => exact (oracleFee_blameless _ _).next fun _ => of_pure _
  | some job => exact of_pure _

theorem nextAttempt_blameless (hs : s.Matched) (now : Timestamp) (id : RaffleId) :
    (nextAttempt s now id).Blameless := by
  refine (outstanding_blameless hs id).next fun o => ?_
  cases o with
  | none => exact of_pure 0
  | some job =>
      refine (of_orAbort _).next fun retry => ?_
      refine (of_ensure _ not_false).next fun _ => ?_
      split
      · exact of_pure _
      · exact of_aborted

theorem updateRandomness_blameless (hs : s.Matched) (env : Surroundings) (caller : Caller)
    (id : RaffleId) : (updateRandomness s env caller id).Blameless := by
  refine (getConfig_blameless s).next fun config => ?_
  refine (of_ensure _ not_false).next fun _ => ?_
  refine (getRaffle_blameless s id).next fun raffle => ?_
  refine (ensurePhase_blameless _ _ _ _).next fun _ => ?_
  refine (nextAttempt_blameless hs env.now id).next fun attempt => ?_
  exact (oracleFee_blameless _ _).next fun _ => of_pure _

/-- A winner is found when a purchase is kept at the first slot, below all that are sold. -/
theorem pickWinner_blameless {tickets : TicketCount}
    (hfirst : tickets ≠ 0 → ((s.ledger id).get? 0).isSome) (randomness : Bytes) :
    (pickWinner s id randomness tickets).Blameless := by
  unfold pickWinner
  split
  · exact of_pure none
  · next hsold =>
    refine (of_ensure _ not_false).next fun _ => ?_
    refine RefusesOnly.next ?_ fun slot => RefusesOnly.map ?_ _
    · refine (of_ensure _ not_false).next fun _ => RefusesOnly.next ?_ fun _ => ?_
      · rw [decide_eq_true hsold]
        exact of_ok ()
      · have hslot := ofNat?_drawnSlot randomness hsold
        rw [drawnSlot, ← ofBigEndian_eq_ofDigits] at hslot
        rw [hslot]
        exact of_ok _
    · obtain ⟨p, hp⟩ := Option.isSome_iff_exists.mp (hfirst hsold)
      have hle : compare 0 slot ≠ .gt := by
        rw [Ne, Std.compare_eq_gt]
        exact UInt32.not_lt_zero
      obtain ⟨e, he⟩ := Table.exists_floor? hp hle
      rw [ticketOwner, Ledger.ownerOf?, he]
      exact of_ok e.2.buyer

/-- An answer comes while the raffle is closed, when there is no randomness yet. -/
theorem receiveRandomness_blameless (hs : ∀ id, s.Opened id) (env : Surroundings)
    (caller : Caller) (answer : RandomnessAnswer) :
    (receiveRandomness s env caller answer).Blameless := by
  refine (getConfig_blameless s).next fun config => ?_
  refine (of_ensure _ not_false).next fun _ => ?_
  refine RefusesOnly.next (of_orRefuse _ not_false) fun job => ?_
  refine (getRaffle_blameless s job.raffle).bind fun raffle hraffle => ?_
  refine (ensurePhase_blameless _ _ _ _).bind fun _ hclosed => ?_
  have hnone := (Raffle.phase?_eq_closed.mp (ensurePhase_eq_ok.mp hclosed)).2.1
  refine RefusesOnly.next ?_ fun _ => ?_
  · rw [hnone]
    exact of_ok ()
  refine (of_ensure _ not_false).next fun _ => ?_
  refine RefusesOnly.next ?_ fun winner => of_pure _
  exact pickWinner_blameless (hs job.raffle raffle (orRefuse_eq_ok.mp hraffle)) answer.randomness

/-! ## Settings -/

theorem checkOracle_blameless (a : Address) : (checkOracle a).Blameless :=
  of_mapError fun _ _ => not_false

theorem setup_blameless (s : Store) (caller : Caller) (r : SetupRequest) :
    (setup s caller r).Blameless := by
  refine (checkOracle_blameless r.oracle).next fun oracle => ?_
  refine (of_ensure _ not_false).next fun _ => ?_
  refine (of_ensure _ not_false).next fun _ => ?_
  refine (of_ensure _ not_false).next fun _ => ?_
  refine (of_ensure _ not_false).next fun _ => ?_
  refine (of_ensure _ not_false).next fun _ => ?_
  refine (validate_blameless _).next fun owner => ?_
  exact (validate_blameless _).next fun treasury => of_pure _

theorem change_blameless {α : Type} (value : Option α) (config : Config)
    {apply : α → Config → Outcome Config} (h : ∀ a c, (apply a c).Blameless) :
    (change value config apply).Blameless := by
  cases value with
  | none => exact of_pure config
  | some a => exact h a config

theorem revised_blameless (config : Config) (r : ConfigRequest) :
    (revised config r).Blameless := by
  refine (change_blameless _ _ fun _ _ => (of_ensure _ not_false).next fun _ => of_pure _).next
    fun c => ?_
  refine (change_blameless _ _ fun a _ => (validate_blameless a).next fun _ => of_pure _).next
    fun c => ?_
  refine (change_blameless _ _ fun a _ => (validate_blameless a).next fun _ => of_pure _).next
    fun c => ?_
  refine (change_blameless _ _ fun _ _ => (of_ensure _ not_false).next fun _ => of_pure _).next
    fun c => ?_
  refine (change_blameless _ _ fun _ _ => of_pure _).next fun c => ?_
  refine (change_blameless _ _ fun _ _ => (of_ensure _ not_false).next fun _ => of_pure _).next
    fun c => ?_
  refine (change_blameless _ _ fun _ _ => (of_ensure _ not_false).next fun _ => of_pure _).next
    fun c => ?_
  refine (change_blameless _ _ fun a _ => (checkOracle_blameless a).next fun _ => of_pure _).next
    fun c => ?_
  refine (change_blameless _ _ fun _ _ => of_pure _).next fun c => ?_
  exact change_blameless _ _ fun _ _ => (of_ensure _ not_false).next fun _ => of_pure _

theorem ownedConfig_blameless (s : Store) (sender : Address) :
    (ownedConfig s sender).Blameless := by
  refine (getConfig_blameless s).next fun config => ?_
  exact (of_ensure _ not_false).next fun _ => of_pure config

theorem updateConfig_blameless (s : Store) (caller : Caller) (r : ConfigRequest) :
    (updateConfig s caller r).Blameless := by
  refine (ownedConfig_blameless s caller.address).next fun config => ?_
  exact (revised_blameless config r).next fun _ => of_pure _

theorem setLock_blameless (s : Store) (caller : Caller) (lock : Bool) :
    (setLock s caller lock).Blameless :=
  (ownedConfig_blameless s caller.address).next fun _ => of_pure _

theorem govern_blameless (s : Store) (request : GovernanceRequest) :
    (govern s request).Blameless := by
  cases request with
  | setLock lock => exact (getConfig_blameless s).next fun _ => of_pure _

end Contract

end Tombola
