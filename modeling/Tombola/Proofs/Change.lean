import Tombola.Proofs.Accepted.Settings
import Tombola.Proofs.Accepted.Settle
import Tombola.Proofs.History

/-!
# What a turn can do to the store

Every turn that goes through is one of a few changes, each with what it has found in the store. What
holds of all stores that can be reached follows from the changes alone.
-/

namespace Tombola

open Contract

/-- The contract-wide number of tickets that a turn sets, if it sets one. -/
def Turn.limit? : Turn → Option TicketCount
  | .execute _ _ (.updateConfig r) => r.maxTickets
  | _ => none

/-- The turn enters a new raffle when it goes through. -/
def Turn.creates : Turn → Bool
  | .execute _ _ (.create _) => true
  | .execute _ _ (.deposit _) => true
  | _ => false

/-- The turn sends no message, whatever it finds. -/
def Turn.silent : Turn → Bool
  | .execute _ _ (.create _) => false
  | .execute _ _ (.cancel _) => false
  | .execute _ _ (.claim _) => false
  | .execute _ _ (.determineWinner _) => false
  | .execute _ _ (.updateRandomness _) => false
  | _ => true

/-- The raffle that a turn settles when it goes through. -/
def Turn.settles? : Turn → Option RaffleId
  | .execute _ _ (.cancel id) => some id
  | .execute _ _ (.claim id) => some id
  | _ => none

/-- The buyer and the raffle of the purchase that a turn makes when it goes through. -/
def Turn.buys? : Turn → Option (Address × RaffleId)
  | .execute _ caller (.buy r) => some (caller.address, r.raffle)
  | _ => none

/-- The job that a turn answers when it goes through. -/
def Turn.answers? : Turn → Option JobId
  | .execute _ _ (.receiveRandomness answer) => some answer.job
  | _ => none

/-- What a turn that goes through does to the store, and the one raffle that it is about, if any. -/
inductive Change (s : Store) (t : Turn) : Option RaffleId → Store → Prop
  | idle : Change s t none s
  | version : Change s t none { s with version := some .current }
  | settings {config config' : Config} (configured : s.config = some config)
      (last : config'.lastRaffle = config.lastRaffle)
      (limit : config'.maxTickets = t.limit?.or config.maxTickets)
      (valid : config.Valid → config'.Valid) : Change s t none (s.putConfig config')
  | creation {config r owner id raffle s'} (h : Creation s t.now config r owner id raffle s')
      (turn : t.creates = true) : Change s t (some id) s'
  | autocycle {config r owner id raffle entered closing s'}
      (h : Creation s t.now config r owner id raffle entered)
      (h' : Autocycle entered t.now config id raffle closing s') (turn : t.creates = true) :
      Change s t (some id) s'
  | modification {sender config r raffle s'}
      (h : Modification s t.now sender config r raffle s') : Change s t (some r.raffle) s'
  | sale {buyer id count raffle price s'} (h : Sale s t.now buyer id count raffle price s')
      (turn : t.buys? = some (buyer, id)) : Change s t (some id) s'
  | inquiry {config id attempt raffle s'} (h : Inquiry s t.now config id attempt raffle s') :
      Change s t (some id) s'
  | draw {answer job raffle winner s'} (h : Draw s t.now answer job raffle winner s')
      (turn : t.answers? = some answer.job) : Change s t (some job.raffle) s'
  | cancellation {sender id raffle s'} (h : Cancellation s t.now sender id raffle s')
      (turn : t.settles? = some id) : Change s t (some id) s'
  | claim {id raffle s'} (h : Claim s t.now id raffle s') (turn : t.settles? = some id) :
      Change s t (some id) s'

/-- Every turn that goes through is one of the changes. -/
theorem Turn.change {t : Turn} {s s' : Store} {response : Response}
    (h : t.outcome s = .ok (s', response)) : ∃ focus, Change s t focus s' := by
  cases t with
  | execute env caller request =>
      cases request with
      | create r =>
          obtain ⟨_, _, _, _, _, _, _, hcreation, _, _, _, ⟨_, rfl, _⟩ | ⟨_, _, hcycle, _⟩⟩ :=
            create_eq_ok h
          · exact ⟨_, .creation hcreation rfl⟩
          · exact ⟨_, .autocycle hcreation hcycle rfl⟩
      | cancel id =>
          obtain ⟨_, _, hcancel, _⟩ := cancel_eq_ok h
          exact ⟨_, .cancellation hcancel rfl⟩
      | updateConfig r =>
          obtain ⟨config, hconfig, _, hallowed, rfl, _⟩ := updateConfig_eq_ok h
          exact ⟨_, .settings hconfig rfl rfl (·.applying hallowed)⟩
      | modify r =>
          obtain ⟨_, _, hmodify, _⟩ := modify_eq_ok h
          exact ⟨_, .modification hmodify⟩
      | buy r =>
          obtain ⟨_, _, hsale, _⟩ := buy_eq_ok h
          exact ⟨_, .sale hsale rfl⟩
      | deposit d =>
          obtain ⟨_, _, _, _, _, _, hcreation, _⟩ := deposit_eq_ok h
          exact ⟨_, .creation hcreation rfl⟩
      | determineWinner id =>
          obtain ⟨rfl, _⟩ | ⟨_, _, hinquiry, _⟩ := determineWinner_eq_ok h
          · exact ⟨_, .idle⟩
          · exact ⟨_, .inquiry hinquiry⟩
      | receiveRandomness answer =>
          obtain ⟨_, _, _, hdraw, _⟩ := receiveRandomness_eq_ok h
          exact ⟨_, .draw hdraw rfl⟩
      | claim id =>
          obtain ⟨_, _, _, hclaim, _⟩ := claim_eq_ok h
          exact ⟨_, .claim hclaim rfl⟩
      | setLock lock =>
          obtain ⟨_, hconfig, _, rfl, _⟩ := setLock_eq_ok h
          exact ⟨_, .settings hconfig rfl rfl (·.unchecked _ _)⟩
      | updateRandomness id =>
          obtain ⟨_, _, _, hinquiry, _⟩ := updateRandomness_eq_ok h
          exact ⟨_, .inquiry hinquiry⟩
  | govern now request =>
      cases request with
      | setLock lock =>
          obtain ⟨_, hconfig, rfl, _⟩ := govern_eq_ok h
          exact ⟨_, .settings hconfig rfl rfl (·.unchecked _ _)⟩
  | migrate now =>
      obtain ⟨rfl, _⟩ := Prod.mk.inj (Except.ok.inj h)
      exact ⟨_, .version⟩

theorem Turn.messages_of_silent {t : Turn} {s s' : Store} {response : Response}
    (ht : t.silent = true) (h : t.outcome s = .ok (s', response)) : response.messages = [] := by
  cases t with
  | execute env caller request =>
      cases request with
      | updateConfig r =>
          obtain ⟨_, _, _, _, _, hmessages⟩ := updateConfig_eq_ok h
          exact hmessages
      | modify r =>
          obtain ⟨_, _, _, hmessages⟩ := modify_eq_ok h
          exact hmessages
      | buy r =>
          obtain ⟨_, _, _, _, _, hmessages⟩ := buy_eq_ok h
          exact hmessages
      | deposit d =>
          obtain ⟨_, _, _, _, _, _, _, _, _, _, _, _, hmessages⟩ := deposit_eq_ok h
          exact hmessages
      | receiveRandomness answer =>
          obtain ⟨_, _, _, _, _, hmessages⟩ := receiveRandomness_eq_ok h
          exact hmessages
      | setLock lock =>
          obtain ⟨_, _, _, _, hmessages⟩ := setLock_eq_ok h
          exact hmessages
      | _ => cases ht
  | govern now request =>
      cases request with
      | setLock lock =>
          obtain ⟨_, _, _, hmessages⟩ := govern_eq_ok h
          exact hmessages
  | migrate now =>
      obtain ⟨_, rfl⟩ := Prod.mk.inj (Except.ok.inj h)
      rfl

/-- How the record of a raffle can change other than by a sale. -/
inductive Raffle.Revision (configured : Option Config) (now : Timestamp) (r : Raffle) :
    Raffle → Prop
  | modified {price : Asset} {request : OptionsRequest} {config : Config}
      (hconfig : configured = some config) (h : r.phase? now = some .created)
      (priced : price = r.price ∨ checkPrice price = .ok ())
      (checked : request.check config = .ok ()) :
      Revision configured now r
        { r with price, options := r.options.revise now r.prizes.length request config }
  | drawn {winner : Option Address} {randomness : Bytes} (h : r.phase? now = some .closed) :
      Revision configured now r { r with winner, randomness := some randomness }
  | cancelled (h : r.phase? now = some .created ∨
      r.phase? now = some .closed ∧ timedOut r now = .ok true) :
      Revision configured now r { r with cancelled := true }
  | claimed (h : r.phase? now = some .finished) (payable : r.Payable) :
      Revision configured now r { r with claimed := true }

namespace Raffle.Revision

variable {configured : Option Config} {now : Timestamp} {r r' : Raffle}

theorem sold (h : r.Revision configured now r') : r'.sold = r.sold := by
  cases h <;> rfl

/-- The phase of a raffle is told before its record changes. -/
theorem phase? (h : r.Revision configured now r') : ∃ phase, r.phase? now = some phase := by
  cases h with
  | modified _ h _ => exact ⟨_, h⟩
  | drawn h => exact ⟨_, h⟩
  | cancelled h => exact h.elim (fun h => ⟨_, h⟩) fun h => ⟨_, h.1⟩
  | claimed h _ => exact ⟨_, h⟩

/-- A record is not revised any more once the raffle is settled. -/
theorem unsettled (h : r.Revision configured now r') : r.Unsettled := by
  cases h with
  | modified _ h _ => exact (Raffle.phase?_eq_created.mp h).1
  | drawn h => exact (Raffle.phase?_eq_closed.mp h).1
  | cancelled h => exact Raffle.unsettled_of_cancellable h
  | claimed h _ => exact (Raffle.phase?_eq_finished.mp h).1

/-- Options change only before the start. -/
theorem options (h : r.Revision configured now r') :
    r'.options = r.options ∨ now < r.options.start := by
  cases h with
  | modified _ h _ => exact .inr (Raffle.phase?_eq_created.mp h).2
  | _ => exact .inl rfl

end Raffle.Revision

/-- Two stores keep the same of one raffle: its record, its tickets and the job it waits for. -/
structure Store.Agree (id : RaffleId) (s s' : Store) : Prop where
  raffle : s'.raffles.get? id = s.raffles.get? id
  ledger : s'.ledger id = s.ledger id
  holding : ∀ buyer, s'.holding buyer id = s.holding buyer id
  awaited : s'.awaited.get? id = s.awaited.get? id

variable {clock : Clock} {now now' : Timestamp} {s s' s'' : Store} {t : Turn}
  {focus : Option RaffleId} {id other : RaffleId} {steps : List Step}

namespace Store.Agree

theorem trans (h : s.Agree id s') (h' : s'.Agree id s'') : s.Agree id s'' where
  raffle := h'.raffle.trans h.raffle
  ledger := h'.ledger.trans h.ledger
  holding buyer := (h'.holding buyer).trans (h.holding buyer)
  awaited := h'.awaited.trans h.awaited

theorem putRaffle (s : Store) (r : Raffle) (h : other ≠ id) :
    s.Agree other (s.putRaffle id r) where
  raffle := (s.raffles_putRaffle id other r).trans (if_neg h)
  ledger := rfl
  holding _ := rfl
  awaited := rfl

theorem clearJob (s : Store) (h : other ≠ id) : s.Agree other (s.clearJob id) where
  raffle := by rw [raffles_clearJob]
  ledger := s.ledger_clearJob id other
  holding buyer := s.holding_clearJob id other buyer
  awaited := (s.awaited_clearJob id other).trans (if_neg h)

theorem requestRandomness (s : Store) (now : Timestamp) (config : Config) (attempt : UInt32)
    (after : Option Timestamp) (h : other ≠ id) :
    s.Agree other (requestRandomness s now config id attempt after).1 where
  raffle := by rw [raffles_requestRandomness]
  ledger := ledger_congr (ledgers_requestRandomness _ _ _ _ _ _)
  holding buyer := holding_congr (holdings_requestRandomness _ _ _ _ _ _) buyer other
  awaited := (awaited_requestRandomness _ _ _ _ _ _ _).trans (if_neg h)

end Store.Agree

theorem Contract.Creation.agree {config r owner raffle}
    (h : Creation s now config r owner id raffle s') (hne : other ≠ id) : s.Agree other s' := by
  obtain rfl := h.store
  have hconfig : s.Agree other (s.putConfig { config with lastRaffle := some id }) :=
    ⟨rfl, rfl, fun _ => rfl, rfl⟩
  exact hconfig.trans (.putRaffle _ raffle hne)

/-- A raffle that a change is not about is another one than the raffle that it is about. -/
theorem ne_of_focus (h : some id ≠ some other) : other ≠ id := by
  rintro rfl
  exact h rfl

/-- A change keeps everything about the raffles that it is not about. -/
theorem Change.agree (h : Change s t focus s') (hid : focus ≠ some other) : s.Agree other s' := by
  cases h with
  | idle => exact ⟨rfl, rfl, fun _ => rfl, rfl⟩
  | version => exact ⟨rfl, rfl, fun _ => rfl, rfl⟩
  | settings _ _ _ => exact ⟨rfl, rfl, fun _ => rfl, rfl⟩
  | creation h => exact h.agree (ne_of_focus hid)
  | autocycle h h' =>
      have hne := ne_of_focus hid
      obtain rfl := h'.store
      exact (h.agree hne).trans (.requestRandomness _ _ _ _ _ hne)
  | modification h =>
      obtain rfl := h.store
      exact .putRaffle s _ (ne_of_focus hid)
  | sale h =>
      have hne := ne_of_focus hid
      exact ⟨(h.get?_raffles other).trans (if_neg hne), (h.ledger other).trans (if_neg hne),
        fun buyer => (h.holding buyer other).trans (if_neg fun h => hne h.2), by rw [h.store]; rfl⟩
  | inquiry h =>
      obtain rfl := h.store
      exact .requestRandomness s _ _ _ _ (ne_of_focus hid)
  | draw h =>
      have hne := ne_of_focus hid
      obtain rfl := h.store
      exact (Store.Agree.putRaffle s _ hne).trans (.clearJob _ hne)
  | cancellation h =>
      have hne := ne_of_focus hid
      obtain rfl := h.store
      exact (Store.Agree.putRaffle s _ hne).trans (.clearJob _ hne)
  | claim h =>
      obtain rfl := h.store
      exact .putRaffle s _ (ne_of_focus hid)

/-- What a change does to the record and the tickets of one raffle. -/
inductive RaffleChange (s : Store) (t : Turn) (id : RaffleId) (s' : Store) : Prop
  | same (raffle : s'.raffles.get? id = s.raffles.get? id) (ledger : s'.ledger id = s.ledger id)
      (holding : ∀ buyer, s'.holding buyer id = s.holding buyer id)
  | entered {config r owner raffle entered}
      (h : Creation s t.now config r owner id raffle entered)
      (raffle : s'.raffles.get? id = some raffle) (ledger : s'.ledger id = s.ledger id)
      (holding : ∀ buyer, s'.holding buyer id = s.holding buyer id) (turn : t.creates = true)
  | revised {r r' : Raffle} (kept : s.raffles.get? id = some r) (h : r.Revision s.config t.now r')
      (raffle : s'.raffles.get? id = some r') (ledger : s'.ledger id = s.ledger id)
      (holding : ∀ buyer, s'.holding buyer id = s.holding buyer id)
  | sold {buyer count raffle price} (h : Sale s t.now buyer id count raffle price s')
      (turn : t.buys? = some (buyer, id))

theorem Change.raffle (h : Change s t focus s') (id : RaffleId) :
    RaffleChange s t id s' := by
  by_cases hid : focus = some id
  · subst hid
    cases h with
    | creation h turn =>
        have hrecord := h.record
        obtain rfl := h.store
        exact .entered h hrecord rfl (fun _ => rfl) turn
    | autocycle h h' turn =>
        have hrecord := h'.record h.record
        obtain rfl := h'.store
        obtain rfl := h.store
        exact .entered h hrecord
          (Store.ledger_congr (ledgers_requestRandomness _ _ _ _ _ _))
          (fun buyer => Store.holding_congr (holdings_requestRandomness _ _ _ _ _ _) buyer id) turn
    | modification h =>
        have hrecord := h.record
        obtain rfl := h.store
        exact .revised h.kept (.modified h.configured h.created h.priced_getD h.checked) hrecord
          rfl fun _ => rfl
    | sale h turn => exact .sold h turn
    | inquiry h =>
        obtain rfl := h.store
        exact .same (by rw [raffles_requestRandomness])
          (Store.ledger_congr (ledgers_requestRandomness _ _ _ _ _ _))
          fun buyer => Store.holding_congr (holdings_requestRandomness _ _ _ _ _ _) buyer id
    | draw h =>
        have hrecord := h.record
        obtain rfl := h.store
        exact .revised h.kept (.drawn h.closed) hrecord (Store.ledger_clearJob _ _ _)
          fun _ => Store.holding_clearJob _ _ _ _
    | cancellation h =>
        have hrecord := h.record
        obtain rfl := h.store
        exact .revised h.kept (.cancelled h.cancellable) hrecord (Store.ledger_clearJob _ _ _)
          fun _ => Store.holding_clearJob _ _ _ _
    | claim h =>
        have hrecord := h.record
        obtain rfl := h.store
        exact .revised h.kept (.claimed h.finished h.payable) hrecord rfl fun _ => rfl
  · have hagree := h.agree hid
    exact .same hagree.raffle hagree.ledger hagree.holding

/-- A raffle that is stored stays so. -/
theorem Change.stored (h : Change s t focus s') {r : Raffle} (hr : s.raffles.get? id = some r) :
    ∃ r', s'.raffles.get? id = some r' := by
  cases h.raffle id with
  | same raffle _ _ => exact ⟨r, raffle.trans hr⟩
  | entered _ raffle _ _ => exact ⟨_, raffle⟩
  | revised _ _ raffle _ _ => exact ⟨_, raffle⟩
  | sold hsale => exact ⟨_, hsale.record⟩

/-- The configuration is kept or replaced by one whose number of tickets is kept, or the one that
the turn sets, and which is still valid. -/
theorem Change.config (h : Change s t focus s') : s'.config = s.config ∨
    ∃ config config', s.config = some config ∧ s'.config = some config' ∧
      (config'.maxTickets = config.maxTickets ∨
        config'.maxTickets = t.limit?.or config.maxTickets) ∧
      (config.Valid → config'.Valid) := by
  cases h with
  | idle => exact .inl rfl
  | version => exact .inl rfl
  | settings configured _ limit valid =>
      exact .inr ⟨_, _, configured, rfl, .inr limit, valid⟩
  | creation h =>
      obtain rfl := h.store
      exact .inr ⟨_, _, h.configured, rfl, .inl rfl, (·.unchecked _ _)⟩
  | autocycle h hcycle =>
      obtain rfl := hcycle.store
      obtain rfl := h.store
      exact .inr ⟨_, _, h.configured, config_requestRandomness _ _ _ _ _ _, .inl rfl,
        (·.unchecked _ _)⟩
  | modification h =>
      obtain rfl := h.store
      exact .inl rfl
  | sale h =>
      obtain rfl := h.store
      exact .inl rfl
  | inquiry h =>
      obtain rfl := h.store
      exact .inl (config_requestRandomness _ _ _ _ _ _)
  | draw h =>
      obtain rfl := h.store
      exact .inl (Store.config_clearJob _ _)
  | cancellation h =>
      obtain rfl := h.store
      exact .inl (Store.config_clearJob _ _)
  | claim h =>
      obtain rfl := h.store
      exact .inl rfl

/-- What waiting keeps and every change keeps, a run keeps. -/
theorem Run.keeps {P : Timestamp → Store → Prop}
    (wait : ∀ {now now' s}, clock now now' → P now s → P now' s)
    (change : ∀ {t : Turn} {s s' focus}, P t.now s → Change s t focus s' → P t.now s')
    (h : Run clock now s steps now' s') (h₀ : P now s) : P now' s' :=
  h.preserves wait (fun hs hout => (Turn.change hout).elim fun _ hc => change hs hc) h₀

/-- What a freshly set up store has, waiting keeps and every change keeps, every store that can be
reached has. -/
theorem Reachable.invariant {P : Timestamp → Store → Prop}
    (fresh : ∀ {now config} caller request, Setup caller request config →
      P now { Store.empty with config := some config, version := some .current })
    (wait : ∀ {now now' s}, clock now now' → P now s → P now' s)
    (change : ∀ {t : Turn} {s s' focus}, P t.now s → Change s t focus s' → P t.now s')
    (h : Reachable clock now s) : P now s := by
  obtain ⟨caller, request, s₀, response, opening, steps, hsetup, hrun⟩ := h
  obtain ⟨config, hconfig, rfl, _⟩ := setup_eq_ok hsetup
  exact hrun.keeps wait change (fresh caller request hconfig)

/-- What a freshly set up store has, waiting keeps and every turn keeps, with its step added to the
record, every recorded store has. -/
theorem Recorded.invariant {P : List Step → Timestamp → Store → Prop}
    (fresh : ∀ {now config} caller request, Setup caller request config →
      P [] now { Store.empty with config := some config, version := some .current })
    (wait : ∀ {steps now now' s}, clock now now' → P steps now s → P steps now' s)
    (accept : ∀ {steps now t s s' response}, Reachable clock now s → clock now t.now →
      P steps t.now s → t.outcome s = .ok (s', response) →
      P (⟨t, some response⟩ :: steps) t.now s')
    (reject : ∀ {steps t s}, P steps t.now s → P (⟨t, none⟩ :: steps) t.now s)
    (h : Recorded clock steps now s) : P steps now s := by
  obtain ⟨caller, request, s₀, response, opening, hsetup, hrun⟩ := h
  obtain ⟨config, hconfig, rfl, _⟩ := setup_eq_ok hsetup
  refine hrun.records wait ?_ reject (fresh caller request hconfig)
  intro steps now t s s' response' hbefore hclock hs hout
  exact accept ⟨caller, request, _, response, opening, steps, hsetup, hbefore⟩ hclock hs hout

/-- What a freshly set up store has, and every turn keeps unless its step is barred, a recorded
store has as long as no step was barred. -/
theorem Recorded.unless {P : Store → Prop} {Barred : Step → Prop}
    (fresh : ∀ {config} caller request, Setup caller request config →
      P { Store.empty with config := some config, version := some .current })
    (accept : ∀ {now t s s' response}, Reachable clock now s → ¬Barred ⟨t, some response⟩ →
      P s → t.outcome s = .ok (s', response) → P s')
    (h : Recorded clock steps now s) (hsteps : ∀ step ∈ steps, ¬Barred step) : P s := by
  refine h.invariant (P := fun steps _ s => (∀ step ∈ steps, ¬Barred step) → P s) ?_ ?_ ?_ ?_ hsteps
  · intro now config caller request hsetup _
    exact fresh caller request hsetup
  · intro steps now now' s _ hs
    exact hs
  · intro steps now t s s' response hreach _ hs hout hsteps
    obtain ⟨hlast, hbefore⟩ := List.forall_mem_cons.mp hsteps
    exact accept hreach hlast (hs hbefore) hout
  · intro steps t s hs hsteps
    exact hs (List.forall_mem_cons.mp hsteps).2

/-- What a freshly set up store has, waiting keeps and every change of a store that can be reached
keeps, every store that can be reached has. -/
theorem Reachable.induction {P : Timestamp → Store → Prop}
    (fresh : ∀ {now config} caller request, Setup caller request config →
      P now { Store.empty with config := some config, version := some .current })
    (wait : ∀ {now now' s}, clock now now' → P now s → P now' s)
    (change : ∀ {now t s s' focus}, Reachable clock now s → clock now t.now → P t.now s →
      Change s t focus s' → P t.now s')
    (h : Reachable clock now s) : P now s := by
  obtain ⟨caller, request, s₀, response, opening, steps, hsetup, hrun⟩ := h
  have hrecorded : Recorded clock steps now s :=
    ⟨caller, request, s₀, response, opening, hsetup, hrun⟩
  apply hrecorded.invariant (P := fun _ now s => P now s) fresh wait
  · intro steps now t s s' response hreach hclock hs hout
    obtain ⟨focus, hc⟩ := Turn.change hout
    exact change hreach hclock hs hc
  · intro steps t s hs
    exact hs

/-- A contract that has been set up stays configured. -/
theorem Reachable.configured (h : Reachable clock now s) : ∃ config, s.config = some config := by
  apply h.invariant (P := fun _ s => ∃ config, s.config = some config)
  · intro now config _ _ _
    exact ⟨config, rfl⟩
  · intro now now' s _ hs
    exact hs
  · intro t s s' focus hs hc
    rcases hc.config with heq | ⟨_, config', _, h', _⟩
    · rw [heq]
      exact hs
    · exact ⟨config', h'⟩

/-- What has been checked of a configuration holds of it as long as the contract lives. -/
theorem Reachable.valid (h : Reachable clock now s) {config : Config}
    (hconfig : s.config = some config) : config.Valid := by
  refine h.invariant (P := fun _ s => ∀ config, s.config = some config → config.Valid)
    ?_ ?_ ?_ config hconfig
  · rintro now config _ _ hsetup _ ⟨rfl⟩
    exact hsetup.valid
  · intro now now' s _ hs
    exact hs
  · intro t s s' focus hs hc config' h'
    rcases hc.config with heq | ⟨config, config'', hconfig, h'', _, hvalid⟩
    · exact hs config' (heq ▸ h')
    · obtain rfl := Option.some.inj (h'.symm.trans h'')
      exact hvalid (hs config hconfig)

end Tombola
