import Tombola.Proofs.Entries
import Tombola.Proofs.Winner

/-!
# Raffles are isolated from each other

A request on one raffle leaves the configuration and all entries of other raffles as they are, and
what comes of it depends on the configuration and the entries of that raffle alone: two stores that
have these in common fail in the same way, or respond alike and have them in common again.
-/

namespace Tombola

open Contract

/-! ## Stores with one raffle in common -/

namespace Store

/-- Two stores have the configuration and the entries of one raffle in common. -/
structure Twin (id : RaffleId) (s s' : Store) : Prop extends Alike id s s' where
  config : s'.config = s.config

variable {s s' : Store} {id : RaffleId}

theorem Alike.refl (id : RaffleId) (s : Store) : s.Alike id s :=
  ⟨rfl, rfl, fun _ => rfl, rfl, fun _ _ _ => Iff.rfl⟩

namespace Twin

theorem getConfig (h : s.Twin id s') : s'.getConfig = s.getConfig := by
  rw [Store.getConfig, h.config, Store.getConfig]

theorem getRaffle (h : s.Twin id s') : s'.getRaffle id = s.getRaffle id := by
  rw [Store.getRaffle, h.raffle, Store.getRaffle]

theorem ownedRaffle (h : s.Twin id s') (sender : Address) :
    s'.ownedRaffle id sender = s.ownedRaffle id sender := by
  rw [Store.ownedRaffle, h.getRaffle, Store.ownedRaffle]

theorem holding (h : s.Twin id s') (buyer : Address) :
    s'.holding buyer id = s.holding buyer id := by
  rw [Store.holding, h.held, Store.holding]

/-- The job that the raffle waits for is one of its entries. -/
theorem outstanding (h : s.Twin id s') (hs : s.Matched) : s'.outstanding id = s.outstanding id := by
  rw [Store.outstanding, h.awaited, Store.outstanding]
  cases hawaited : s.awaited.get? id with
  | none => rfl
  | some j =>
      obtain ⟨job, hjob, hraffle⟩ := hs.awaited_iff.mp hawaited
      simp only [hjob, (h.jobs j job hraffle).mpr hjob]

theorem putRaffle (h : s.Twin id s') (r : Raffle) :
    (s.putRaffle id r).Twin id (s'.putRaffle id r) where
  raffle := by rw [raffles_putRaffle_self, raffles_putRaffle_self]
  ledger := h.ledger
  held := h.held
  awaited := h.awaited
  jobs := h.jobs
  config := h.config

theorem putPurchase (h : s.Twin id s') (slot : Slot) (p : Purchase) :
    (s.putPurchase id slot p).Twin id (s'.putPurchase id slot p) where
  raffle := h.raffle
  ledger := by rw [ledger_putPurchase, ledger_putPurchase, h.ledger]
  held := h.held
  awaited := h.awaited
  jobs := h.jobs
  config := h.config

theorem putHolding (h : s.Twin id s') (buyer : Address) (count : TicketCount) :
    (s.putHolding buyer id count).Twin id (s'.putHolding buyer id count) where
  raffle := h.raffle
  ledger := h.ledger
  held other := by rw [held_putHolding, held_putHolding, h.held]
  awaited := h.awaited
  jobs := h.jobs
  config := h.config

theorem clearJob (h : s.Twin id s') : (s.clearJob id).Twin id (s'.clearJob id) where
  raffle := by rw [raffles_clearJob, raffles_clearJob, h.raffle]
  ledger := by rw [ledger_clearJob, ledger_clearJob, h.ledger]
  held buyer := by
    rw [held_congr (holdings_clearJob _ _), held_congr (holdings_clearJob _ _), h.held]
  awaited := by rw [awaited_clearJob_self, awaited_clearJob_self]
  jobs j job hraffle := by
    rw [jobs_clearJob, jobs_clearJob, h.awaited]
    split
    · rfl
    · exact h.jobs j job hraffle
  config := by rw [config_clearJob, config_clearJob, h.config]

theorem requestRandomness (h : s.Twin id s') (now : Timestamp) (config : Config) (attempt : UInt32)
    (after : Option Timestamp) : (requestRandomness s now config id attempt after).1.Twin id
      (requestRandomness s' now config id attempt after).1 where
  raffle := by rw [raffles_requestRandomness, raffles_requestRandomness, h.raffle]
  ledger := by
    rw [ledger_congr (ledgers_requestRandomness _ _ _ _ _ _),
      ledger_congr (ledgers_requestRandomness _ _ _ _ _ _), h.ledger]
  held buyer := by
    rw [held_congr (holdings_requestRandomness _ _ _ _ _ _),
      held_congr (holdings_requestRandomness _ _ _ _ _ _), h.held]
  awaited := by rw [awaited_requestRandomness_self, awaited_requestRandomness_self]
  jobs j job hraffle := by
    rw [jobs_requestRandomness, jobs_requestRandomness, h.awaited]
    split
    · rfl
    · split
      · rfl
      · exact h.jobs j job hraffle
  config := by rw [config_requestRandomness, config_requestRandomness, h.config]

end Twin

end Store

/-- The same response, and stores that have one raffle in common. -/
def Effect.Twin (id : RaffleId) (e e' : Effect) : Prop := e'.2 = e.2 ∧ e.1.Twin id e'.1

namespace Contract

open Outcome

variable {s s' : Store} {env env' : Surroundings} {id : RaffleId}

theorem buy_twin {r : BuyRequest} (h : s.Twin r.raffle s') (hnow : env'.now = env.now)
    (caller : Caller) :
    Rel (Effect.Twin r.raffle) (buy s env caller r) (buy s' env' caller r) := by
  unfold buy
  rw [h.getConfig, h.getRaffle, hnow]
  refine .step _ fun config _ => .step _ fun _ _ => .step _ fun raffle _ => ?_
  refine .step _ fun _ _ => .step _ fun _ _ => .step _ fun cost _ => ?_
  refine .step _ fun sent _ => .step _ fun _ _ => .step _ fun _ _ => ?_
  have henter : Rel (fun e e' => e'.2 = e.2 ∧ e.1.Twin r.raffle e'.1)
      (enterPurchase s env.now caller.address r.raffle raffle r.count)
      (enterPurchase s' env.now caller.address r.raffle raffle r.count) := by
    unfold enterPurchase
    rw [h.holding]
    refine .step _ fun _ _ => .step _ fun _ _ => .ok ⟨rfl, ?_⟩
    exact ((h.putPurchase _ _).putHolding _ _).putRaffle _
  refine henter.bind ?_
  rintro ⟨entered, sold⟩ ⟨entered', _⟩ ⟨rfl, htwin⟩
  exact .ok ⟨rfl, htwin⟩

theorem modify_twin {r : ModifyRequest} (h : s.Twin r.raffle s') (hs : s.Matched)
    (hnow : env'.now = env.now) (caller : Caller) : Rel (Effect.Twin r.raffle)
      (Contract.modify s env caller r) (Contract.modify s' env' caller r) := by
  have hput (raffle : Raffle) (response : Response) : Rel (Effect.Twin r.raffle)
      (pure (s.putRaffle r.raffle raffle, response))
      (pure (s'.putRaffle r.raffle raffle, response)) := .ok ⟨rfl, h.putRaffle raffle⟩
  unfold Contract.modify
  rw [h.ownedRaffle, h.getConfig, h.outstanding hs, hnow]
  refine .step _ fun raffle _ => .step _ fun config _ => .step _ fun _ _ => .step _ fun _ _ => ?_
  refine .when _ fun _ => ?_
  cases r.price with
  | none => exact .step _ fun _ _ => hput _ _
  | some price => exact .step _ fun _ _ => .step _ fun _ _ => hput _ _

theorem cancel_twin (h : s.Twin id s') (hnow : env'.now = env.now) (caller : Caller) :
    Rel (Effect.Twin id) (cancel s env caller id) (cancel s' env' caller id) := by
  unfold cancel
  rw [h.ownedRaffle, hnow]
  refine .step _ fun raffle _ => .step _ fun _ _ => ?_
  have hcleared := (h.putRaffle { raffle with cancelled := true }).clearJob
  dsimp only
  rw [refundMessages, refundMessages, hcleared.ledger]
  exact .step _ fun refunds _ => .ok ⟨rfl, hcleared⟩

theorem claim_twin (h : s.Twin id s') (hnow : env'.now = env.now) :
    Rel (Effect.Twin id) (claim s env id) (claim s' env' id) := by
  unfold claim
  rw [h.getConfig, h.getRaffle, hnow]
  refine .step _ fun config _ => .step _ fun raffle _ => .step _ fun _ _ => ?_
  exact .step _ fun proceeds _ => .ok ⟨rfl, h.putRaffle _⟩

theorem determineWinner_twin (h : s.Twin id s') (hs : s.Matched) (hnow : env'.now = env.now)
    (caller : Caller) :
    Rel (Effect.Twin id) (determineWinner s env caller id) (determineWinner s' env' caller id) := by
  unfold determineWinner
  rw [h.getConfig, h.getRaffle, h.outstanding hs, hnow]
  refine .step _ fun config _ => .step _ fun raffle _ => .step _ fun _ _ => .step _ fun o _ => ?_
  cases o with
  | none => exact .step _ fun _ _ => .ok ⟨rfl, h.requestRandomness env.now config 0 none⟩
  | some job => exact .ok ⟨rfl, h⟩

theorem updateRandomness_twin (h : s.Twin id s') (hs : s.Matched) (hnow : env'.now = env.now)
    (caller : Caller) :
    Rel (Effect.Twin id) (updateRandomness s env caller id)
      (updateRandomness s' env' caller id) := by
  unfold updateRandomness nextAttempt
  rw [h.getConfig, h.getRaffle, h.outstanding hs, hnow]
  refine .step _ fun config _ => .step _ fun _ _ => .step _ fun raffle _ => ?_
  refine .step _ fun _ _ => .step _ fun attempt _ => .step _ fun _ _ => ?_
  exact .ok ⟨rfl, h.requestRandomness env.now config attempt none⟩

theorem receiveRandomness_twin {answer : RandomnessAnswer} {job : Job}
    (hjob : s.jobs.get? answer.job = some job) (h : s.Twin job.raffle s')
    (hnow : env'.now = env.now) (caller : Caller) : Rel (Effect.Twin job.raffle)
      (receiveRandomness s env caller answer) (receiveRandomness s' env' caller answer) := by
  unfold receiveRandomness
  rw [h.getConfig, hjob, (h.jobs answer.job job rfl).mpr hjob, hnow]
  refine .step _ fun config _ => .step _ fun _ _ => ?_
  refine .step _ fun job' hjob' => ?_
  obtain rfl := Except.ok.inj hjob'
  rw [h.getRaffle]
  refine .step _ fun raffle _ => .step _ fun _ _ => .step _ fun _ _ => .step _ fun _ _ => ?_
  rw [pickWinner_congr h.ledger]
  exact .step _ fun winner _ => .ok ⟨rfl, (h.putRaffle _).clearJob⟩

end Contract

/-- The stored raffle that a request is about. An answer of the oracle is about the raffle of its
job. -/
def Request.raffle? (s : Store) : Request → Option RaffleId
  | .create _ => none
  | .cancel id => some id
  | .updateConfig _ => none
  | .modify r => some r.raffle
  | .buy r => some r.raffle
  | .deposit _ => none
  | .determineWinner id => some id
  | .receiveRandomness answer => (s.jobs.get? answer.job).map (·.raffle)
  | .claim id => some id
  | .setLock _ => none
  | .updateRandomness id => some id

variable {clock : Clock} {now : Timestamp} {s s' : Store} {env env' : Surroundings}
  {caller : Caller} {request : Request} {id : RaffleId} {response : Response}

/-- What comes of a request on a raffle is the same in two stores that have it in common. -/
theorem Request.twin (h : s.Twin id s') (hs : s.Matched) (hid : request.raffle? s = some id)
    (hnow : env'.now = env.now) (caller : Caller) : Outcome.Rel (Effect.Twin id)
      (execute s env caller request) (execute s' env' caller request) := by
  cases request with
  | cancel _ =>
      obtain rfl := Option.some.inj hid
      exact cancel_twin h hnow caller
  | modify _ =>
      obtain rfl := Option.some.inj hid
      exact modify_twin h hs hnow caller
  | buy _ =>
      obtain rfl := Option.some.inj hid
      exact buy_twin h hnow caller
  | determineWinner _ =>
      obtain rfl := Option.some.inj hid
      exact determineWinner_twin h hs hnow caller
  | receiveRandomness _ =>
      obtain ⟨job, hjob, rfl⟩ := Option.map_eq_some_iff.mp hid
      exact receiveRandomness_twin hjob h hnow caller
  | claim _ =>
      obtain rfl := Option.some.inj hid
      exact claim_twin h hnow
  | updateRandomness _ =>
      obtain rfl := Option.some.inj hid
      exact updateRandomness_twin h hs hnow caller
  | _ => cases hid

/-- A request on a raffle that goes through changes nothing, or is a change that is about the raffle
and keeps the configuration. -/
theorem Request.change (hout : execute s env caller request = .ok (s', response))
    (hid : request.raffle? s = some id) :
    s' = s ∨ Change s (.execute env caller request) (some id) s' ∧ s'.config = s.config := by
  cases request with
  | cancel _ =>
      obtain rfl := Option.some.inj hid
      obtain ⟨_, _, h, _⟩ := cancel_eq_ok hout
      refine .inr ⟨.cancellation h rfl, ?_⟩
      rw [h.store, Store.config_clearJob]
      rfl
  | modify _ =>
      obtain rfl := Option.some.inj hid
      obtain ⟨_, _, h, _⟩ := modify_eq_ok hout
      refine .inr ⟨.modification h, ?_⟩
      rw [h.store]
      rfl
  | buy _ =>
      obtain rfl := Option.some.inj hid
      obtain ⟨_, _, h, _⟩ := buy_eq_ok hout
      refine .inr ⟨.sale h rfl, ?_⟩
      rw [h.store]
      rfl
  | determineWinner _ =>
      obtain rfl := Option.some.inj hid
      obtain ⟨rfl, _⟩ | ⟨_, _, h, _⟩ := determineWinner_eq_ok hout
      · exact .inl rfl
      · refine .inr ⟨.inquiry h, ?_⟩
        rw [h.store, config_requestRandomness]
  | receiveRandomness _ =>
      obtain ⟨job, hjob, rfl⟩ := Option.map_eq_some_iff.mp hid
      obtain ⟨_, _, _, h, _⟩ := receiveRandomness_eq_ok hout
      obtain rfl := Option.some.inj (hjob.symm.trans h.awaited)
      refine .inr ⟨.draw h rfl, ?_⟩
      rw [h.store, Store.config_clearJob]
      rfl
  | claim _ =>
      obtain rfl := Option.some.inj hid
      obtain ⟨_, _, _, h, _⟩ := claim_eq_ok hout
      refine .inr ⟨.claim h rfl, ?_⟩
      rw [h.store]
      rfl
  | updateRandomness _ =>
      obtain rfl := Option.some.inj hid
      obtain ⟨_, _, _, h, _⟩ := updateRandomness_eq_ok hout
      refine .inr ⟨.inquiry h, ?_⟩
      rw [h.store, config_requestRandomness]
  | _ => cases hid

theorem Request.keeps_config (hout : execute s env caller request = .ok (s', response))
    (hid : request.raffle? s = some id) : s'.config = s.config := by
  obtain rfl | ⟨_, hconfig⟩ := Request.change hout hid
  · rfl
  · exact hconfig

/-- A turn that creates a raffle enters it under the next id and keeps the rest of the
configuration. -/
theorem Turn.enters_next {t : Turn} (hout : t.outcome s = .ok (s', response))
    (ht : t.creates = true) : ∃ config r owner id raffle entered,
      Creation s t.now config r owner id raffle entered ∧ Change s t (some id) s' ∧
      s'.config = some { config with lastRaffle := some id } := by
  cases t with
  | execute env caller request =>
      cases request with
      | create r =>
          obtain ⟨_, _, _, _, _, _, _, h, _, _, _, ⟨_, rfl, _⟩ | ⟨_, _, h', _⟩⟩ := create_eq_ok hout
          · refine ⟨_, _, _, _, _, _, h, .creation h rfl, ?_⟩
            rw [h.store]
            rfl
          · refine ⟨_, _, _, _, _, _, h, .autocycle h h' rfl, ?_⟩
            rw [h'.store, config_requestRandomness, h.store]
            rfl
      | deposit d =>
          obtain ⟨_, _, _, _, _, _, h, _⟩ := deposit_eq_ok hout
          refine ⟨_, _, _, _, _, _, h, .creation h rfl, ?_⟩
          rw [h.store]
          rfl
      | _ => cases ht
  | govern _ _ => cases ht
  | migrate _ => cases ht

/-- A request on a raffle keeps the configuration and every entry of the other raffles. A creation
moves the last raffle of the configuration on by one, to an id that no entry names, and keeps every
entry of the other raffles. And a request on a raffle depends on nothing but the configuration, the
entries of that raffle, the caller and the time: it fails in the same way, or gives the same
response and the same entries of the raffle, wherever these are the same. -/
theorem raffles_isolated (h : Reachable clock now s) :
    (∀ {env caller request s' response id}, execute s env caller request = .ok (s', response) →
      request.raffle? s = some id →
      s'.config = s.config ∧ ∀ other, other ≠ id → s.Alike other s') ∧
    (∀ {t : Turn} {s' response}, t.outcome s = .ok (s', response) → t.creates = true →
      ∃ config id, s.config = some config ∧
        (id.toNat = match config.lastRaffle with
          | none => 0
          | some last => last.toNat + 1) ∧
        s.raffles.get? id = none ∧ ¬s.Mentions id ∧
        s'.config = some { config with lastRaffle := some id } ∧
        (s'.raffles.get? id).isSome ∧ ∀ other, other ≠ id → s.Alike other s') ∧
    ∀ {s' request id env env'}, request.raffle? s = some id → s.Twin id s' →
      env'.now = env.now → ∀ caller, Outcome.Rel (fun e e' => e'.2 = e.2 ∧ e.1.Twin id e'.1)
        (execute s env caller request) (execute s' env' caller request) := by
  have hfocus {id other : RaffleId} (hne : other ≠ id) : some id ≠ some other :=
    fun heq => hne (Option.some.inj heq).symm
  refine ⟨?_, ?_, ?_⟩
  · intro env caller request s' response id hout hid
    obtain rfl | ⟨hc, hconfig⟩ := Request.change hout hid
    · exact ⟨rfl, fun other _ => .refl other _⟩
    · exact ⟨hconfig, fun other hne => hc.alike h.matched (hfocus hne)⟩
  · intro t s' response hout ht
    obtain ⟨config, r, owner, id, raffle, entered, hnew, hc, hconfig⟩ := t.enters_next hout ht
    exact ⟨config, id, hnew.configured, hnew.number, hnew.fresh, h.not_mentions hnew.fresh,
      hconfig, hc.focus_stored, fun other hne => hc.alike h.matched (hfocus hne)⟩
  · intro s' request id env env' hid htwin hnow caller
    exact Request.twin htwin h.matched hid hnow caller

namespace Sample

/-- A second raffle in the small run. -/
def creation₂ : Turn :=
  .execute (Sample.env 7) ⟨"owner", [coin 7 "uprize", coin 50 "unois"]⟩ (.create raffle)

/-- The buyer in the second raffle has bought nothing of the first. -/
def rival : Caller := ⟨"rival", [coin 4 "ustars"]⟩

/-- One ticket of the second raffle. -/
def order : BuyRequest := ⟨1, 1, .coin (coin 4 "ustars")⟩

def sale₂ : Turn := .execute (Sample.env 8) rival (.buy order)

def created₂ : Store := creation₂.after sold

def sold₂ : Store := sale₂.after created₂

end Sample

/-- A second raffle is entered without touching the first, and so are its sales: the oracle's answer
for the first one is answered in the same way before and after a sale of the second. -/
theorem sample_raffles_isolated :
    Sample.sold.Alike 0 Sample.created₂ ∧ Sample.created₂.Alike 0 Sample.sold₂ ∧
    ∃ response, Sample.draw.response? Sample.created₂ = some response ∧
      Sample.draw.response? Sample.sold₂ = some response := by
  obtain ⟨_, hcreated⟩ : ∃ response, Sample.creation₂.outcome Sample.sold =
      .ok (Sample.created₂, response) := Turn.outcome_of_isSome (by decide)
  obtain ⟨_, hsold⟩ : ∃ response, execute Sample.created₂ (Sample.env 8) Sample.rival
      (.buy Sample.order) = .ok (Sample.sold₂, response) :=
    Turn.outcome_of_isSome (by decide : (Sample.sale₂.response? Sample.created₂).isSome)
  obtain ⟨response, hdrawn⟩ : ∃ response, Sample.draw.outcome Sample.created₂ =
      .ok (Sample.draw.after Sample.created₂, response) := Turn.outcome_of_isSome (by decide)
  have hreachable : Reachable .forward ⟨7⟩ Sample.created₂ := Sample.sold_reachable.run
    (.turn Sample.creation₂ .start (by decide : (⟨6⟩ : Timestamp) ≤ ⟨7⟩))
  obtain ⟨_, hcreation, _⟩ := raffles_isolated Sample.sold_reachable
  obtain ⟨hframe, _, htwin⟩ := raffles_isolated hreachable
  obtain ⟨config, id, hconfig, hnumber, _, _, _, _, hentered⟩ := hcreation hcreated rfl
  obtain ⟨config', hconfig', hlast⟩ : ∃ config, Sample.sold.config = some config ∧
      config.lastRaffle = some 0 := ⟨_, rfl, rfl⟩
  obtain rfl := Option.some.inj (hconfig.symm.trans hconfig')
  have hne : (0 : RaffleId) ≠ id := by
    rintro rfl
    simp only [hlast] at hnumber
    cases hnumber
  have hsale : (Request.buy Sample.order).raffle? Sample.created₂ = some 1 := rfl
  obtain ⟨hsame, hkept⟩ := hframe hsold hsale
  have hanswer : (Request.receiveRandomness ⟨Job.id 0 0, ⟨1000000005⟩,
      List.replicate 32 7⟩).raffle? Sample.created₂ = some 0 := rfl
  have hdraws : Outcome.Rel (fun e e' => e'.2 = e.2 ∧ e.1.Twin 0 e'.1)
      (Sample.draw.outcome Sample.created₂) (Sample.draw.outcome Sample.sold₂) :=
    htwin hanswer ⟨hkept 0 (by decide), hsame⟩ rfl ⟨"nois", []⟩
  rw [hdrawn] at hdraws
  refine ⟨hentered 0 hne, hkept 0 (by decide), response, Turn.response?_of_ok hdrawn, ?_⟩
  generalize hdrawn' : Sample.draw.outcome Sample.sold₂ = x at hdraws
  cases hdraws with
  | ok h =>
      obtain ⟨rfl, _⟩ := h
      exact Turn.response?_of_ok hdrawn'

end Tombola
