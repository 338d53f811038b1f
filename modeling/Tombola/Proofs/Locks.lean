import Tombola.Proofs.Entries

/-!
# What the locks stop

While one of the locks is set no raffle is entered and no ticket is sold. Nothing else looks at the
locks: two stores that differ in the locks alone give the same answer to every other request, and
differ in the locks alone afterwards.
-/

namespace Tombola

open Contract

/-- The requests that enter a raffle or sell tickets. -/
def Request.stoppedByLock : Request → Bool
  | .create _ => true
  | .buy _ => true
  | .deposit _ => true
  | _ => false

/-- The configuration with other locks. -/
def Config.withLocks (config : Config) (locks : Locks) : Config := { config with locks }

namespace Store

/-- One of the two locks is set. -/
def Locked (s : Store) : Prop := ∃ config, s.config = some config ∧ config.locks.locked = true

/-- The same stored raffles with the same numbers of sold tickets, the same ledgers and the same
holdings. -/
structure SameSales (s s' : Store) : Prop where
  sold : ∀ id, (s'.raffles.get? id).map (·.sold) = (s.raffles.get? id).map (·.sold)
  ledgers : s'.ledgers = s.ledgers
  holdings : s'.holdings = s.holdings

/-- The store with other locks, once it is set up. -/
def withLocks (s : Store) (locks : Locks) : Store :=
  { s with config := s.config.map (·.withLocks locks) }

/-- Two stores differ in the locks at most. -/
def SameButLocks (s s' : Store) : Prop := ∃ locks, s' = s.withLocks locks

end Store

/-- The same response, and stores that differ in the locks at most. -/
def Effect.SameButLocks (e e' : Effect) : Prop := e'.2 = e.2 ∧ e.1.SameButLocks e'.1

variable {clock : Clock} {now now' : Timestamp} {s s' s'' : Store} {steps : List Step} {t : Turn}
  {env : Surroundings} {caller : Caller} {id : RaffleId} {config : Config} {locks : Locks}
  {response : Response}

/-! ## While a lock is set -/

theorem Store.SameSales.refl (s : Store) : s.SameSales s := ⟨fun _ => rfl, rfl, rfl⟩

theorem Store.SameSales.trans (h : s.SameSales s') (h' : s'.SameSales s'') : s.SameSales s'' where
  sold id := (h'.sold id).trans (h.sold id)
  ledgers := h'.ledgers.trans h.ledgers
  holdings := h'.holdings.trans h.holdings

theorem Store.not_locked (hconfig : s.config = some config) (h : config.locks.locked = false) :
    ¬s.Locked := by
  rintro ⟨config', hconfig', hlocked⟩
  obtain rfl := Option.some.inj (hconfig.symm.trans hconfig')
  rw [h] at hlocked
  cases hlocked

/-- A turn sells tickets only while no lock is set. -/
theorem Turn.not_locked_of_buys {buyer : Address} (hout : t.outcome s = .ok (s', response))
    (ht : t.buys? = some (buyer, id)) : ¬s.Locked := by
  cases t with
  | execute env caller request =>
      cases request with
      | buy r =>
          obtain ⟨_, _, _, ⟨config, hconfig, hunlocked⟩, _⟩ := buy_eq_ok hout
          exact Store.not_locked hconfig hunlocked
      | _ => cases ht
  | govern _ _ => cases ht
  | migrate _ => cases ht

/-- What a turn does while a lock is set keeps the sales. -/
theorem Turn.keeps_sales (hlocked : s.Locked) (hout : t.outcome s = .ok (s', response)) :
    s.SameSales s' := by
  obtain ⟨focus, hc⟩ := Turn.change hout
  have htickets : s'.ledgers = s.ledgers ∧ s'.holdings = s.holdings := by
    rcases hc.tickets with hsame | ⟨_, _, _, _, _, _, hbuys, _⟩
    · exact hsame
    · exact absurd hlocked (Turn.not_locked_of_buys hout hbuys)
  refine ⟨fun id => ?_, htickets.1, htickets.2⟩
  cases hc.raffle id with
  | same raffle _ _ => rw [raffle]
  | entered hnew _ _ _ _ => exact absurd hlocked (Store.not_locked hnew.configured hnew.unlocked)
  | revised kept hrev raffle _ _ => rw [raffle, kept, Option.map_some, Option.map_some, hrev.sold]
  | sold _ hbuys => exact absurd hlocked (Turn.not_locked_of_buys hout hbuys)

/-- A run of which every step is taken while a lock is set keeps the sales. -/
theorem Run.keeps_sales (h : Run clock now s steps now' s')
    (hlocked : ∀ step earlier now'' s'', step :: earlier <:+ steps →
      Run clock now s earlier now'' s'' → s''.Locked) : s.SameSales s' := by
  -- The latest step is recorded first, so the steps before it are a suffix too.
  induction h with
  | start => exact .refl s
  | @turn steps now' s' t hrun hclock ih =>
      have hsame : s.SameSales s' := by
        apply ih
        intro step earlier now'' s'' hsuffix
        exact hlocked step earlier now'' s'' (hsuffix.trans (List.suffix_cons _ _))
      have hl : s'.Locked := hlocked _ steps _ s' (List.suffix_refl _) hrun
      cases hout : t.outcome s' with
      | ok effect =>
          rw [Turn.after_of_ok hout]
          exact hsame.trans (Turn.keeps_sales hl hout)
      | error fault =>
          rw [Turn.after_of_error hout]
          exact hsame

/-! ## Stores that differ in the locks alone -/

namespace Store

theorem clearJob_withLocks (s : Store) (locks : Locks) (id : RaffleId) :
    (s.withLocks locks).clearJob id = (s.clearJob id).withLocks locks := by
  have hawaited : (s.withLocks locks).awaited = s.awaited := rfl
  unfold clearJob
  rw [hawaited]
  cases s.awaited.get? id with
  | none => rfl
  | some j => rfl

/-- The configurations of stores that differ in the locks do so too. -/
theorem getConfig_withLocks (s : Store) (locks : Locks) :
    Outcome.Rel (fun config config' => config' = config.withLocks locks) s.getConfig
      (s.withLocks locks).getConfig := by
  unfold getConfig withLocks
  cases s.config with
  | none => exact .error _
  | some config => exact .ok rfl

end Store

namespace Contract

open Outcome

theorem requestRandomness_withLocks (s : Store) (locks : Locks) (now : Timestamp) (config : Config)
    (id : RaffleId) (attempt : UInt32) (after : Option Timestamp) :
    (requestRandomness (s.withLocks locks) now (config.withLocks locks) id attempt after).1 =
      (requestRandomness s now config id attempt after).1.withLocks locks := by
  unfold requestRandomness
  rw [Store.clearJob_withLocks]
  rfl

theorem modify_withLocks (r : ModifyRequest) : Rel Effect.SameButLocks
    (Contract.modify s env caller r) (Contract.modify (s.withLocks locks) env caller r) := by
  have hput (raffle : Raffle) (response : Response) : Rel Effect.SameButLocks
      (pure (s.putRaffle r.raffle raffle, response))
      (pure ((s.withLocks locks).putRaffle r.raffle raffle, response)) := .ok ⟨rfl, locks, rfl⟩
  unfold Contract.modify
  refine .step _ fun raffle _ => (s.getConfig_withLocks locks).bind ?_
  rintro config _ rfl
  refine .step _ fun _ _ => .step _ fun _ _ => .when _ fun _ => ?_
  cases r.price with
  | none => exact .step _ fun _ _ => hput _ _
  | some price => exact .step _ fun _ _ => .step _ fun _ _ => hput _ _

theorem cancel_withLocks : Rel Effect.SameButLocks (cancel s env caller id)
    (cancel (s.withLocks locks) env caller id) := by
  unfold cancel
  refine .step _ fun raffle _ => .step _ fun _ _ => ?_
  have hcleared : ((s.withLocks locks).putRaffle id { raffle with cancelled := true }).clearJob id =
      ((s.putRaffle id { raffle with cancelled := true }).clearJob id).withLocks locks :=
    Store.clearJob_withLocks (s.putRaffle id _) locks id
  dsimp only
  rw [hcleared]
  exact .step _ fun refunds _ => .ok ⟨rfl, locks, rfl⟩

theorem claim_withLocks : Rel Effect.SameButLocks (claim s env id)
    (claim (s.withLocks locks) env id) := by
  unfold claim
  refine (s.getConfig_withLocks locks).bind ?_
  rintro config _ rfl
  refine .step _ fun raffle _ => .step _ fun _ _ => ?_
  exact .step _ fun proceeds _ => .ok ⟨rfl, locks, rfl⟩

theorem determineWinner_withLocks : Rel Effect.SameButLocks (determineWinner s env caller id)
    (determineWinner (s.withLocks locks) env caller id) := by
  unfold determineWinner
  refine (s.getConfig_withLocks locks).bind ?_
  rintro config _ rfl
  refine .step _ fun raffle _ => .step _ fun _ _ => .step _ fun o _ => ?_
  cases o with
  | none =>
      exact .step _ fun _ _ =>
        .ok ⟨rfl, locks, requestRandomness_withLocks s locks env.now config id 0 none⟩
  | some job => exact .ok ⟨rfl, locks, rfl⟩

theorem updateRandomness_withLocks : Rel Effect.SameButLocks (updateRandomness s env caller id)
    (updateRandomness (s.withLocks locks) env caller id) := by
  unfold updateRandomness
  refine (s.getConfig_withLocks locks).bind ?_
  rintro config _ rfl
  refine .step _ fun _ _ => .step _ fun raffle _ => .step _ fun _ _ => .step _ fun attempt _ => ?_
  exact .step _ fun _ _ =>
    .ok ⟨rfl, locks, requestRandomness_withLocks s locks env.now config id attempt none⟩

theorem receiveRandomness_withLocks (answer : RandomnessAnswer) : Rel Effect.SameButLocks
    (receiveRandomness s env caller answer)
    (receiveRandomness (s.withLocks locks) env caller answer) := by
  unfold receiveRandomness
  refine (s.getConfig_withLocks locks).bind ?_
  rintro config _ rfl
  refine .step _ fun _ _ => .step _ fun job _ => .step _ fun raffle _ => ?_
  refine .step _ fun _ _ => .step _ fun _ _ => .step _ fun _ _ => .step _ fun winner _ => ?_
  exact .ok ⟨rfl, locks, Store.clearJob_withLocks (s.putRaffle job.raffle _) locks job.raffle⟩

theorem ownedConfig_withLocks (s : Store) (locks : Locks) (sender : Address) :
    Rel (fun config config' => config' = config.withLocks locks) (ownedConfig s sender)
      (ownedConfig (s.withLocks locks) sender) := by
  unfold ownedConfig
  refine (s.getConfig_withLocks locks).bind ?_
  rintro config _ rfl
  exact .step _ fun _ _ => .ok rfl

/-- A change of one setting is made alike when its value is set alike. -/
theorem change_withLocks {α : Type} {value : Option α} {apply : α → Config → Outcome Config}
    (happly : ∀ a c, Rel (fun config config' => config' = config.withLocks locks) (apply a c)
      (apply a (c.withLocks locks))) (config : Config) :
    Rel (fun config config' => config' = config.withLocks locks) (change value config apply)
      (change value (config.withLocks locks) apply) := by
  cases value with
  | none => exact .ok rfl
  | some a => exact happly a config

/-- A change of one setting, and what comes after it. -/
theorem change_bind_withLocks {α β : Type} {Q : β → β → Prop} {value : Option α}
    {apply : α → Config → Outcome Config} {f : Config → Outcome β}
    (happly : ∀ a c, Rel (fun config config' => config' = config.withLocks locks) (apply a c)
      (apply a (c.withLocks locks))) (config : Config)
    (hf : ∀ c, Rel Q (f c) (f (c.withLocks locks))) : Rel Q (change value config apply >>= f)
      (change value (config.withLocks locks) apply >>= f) := by
  apply (change_withLocks happly config).bind
  rintro c _ rfl
  exact hf c

/-- What is checked of settings does not depend on the locks, and they stay as they are. -/
theorem revised_withLocks (config : Config) (locks : Locks) (r : ConfigRequest) :
    Rel (fun config config' => config' = config.withLocks locks) (revised config r)
      (revised (config.withLocks locks) r) := by
  unfold revised
  refine change_bind_withLocks ?_ _ fun c => ?_
  · exact fun _ _ => .step _ fun _ _ => .ok rfl
  refine change_bind_withLocks ?_ _ fun c => ?_
  · exact fun _ _ => .step _ fun _ _ => .ok rfl
  refine change_bind_withLocks ?_ _ fun c => ?_
  · exact fun _ _ => .step _ fun _ _ => .ok rfl
  refine change_bind_withLocks ?_ _ fun c => ?_
  · exact fun _ _ => .step _ fun _ _ => .ok rfl
  refine change_bind_withLocks ?_ _ fun c => ?_
  · exact fun _ _ => .ok rfl
  refine change_bind_withLocks ?_ _ fun c => ?_
  · exact fun _ _ => .step _ fun _ _ => .ok rfl
  refine change_bind_withLocks ?_ _ fun c => ?_
  · exact fun _ _ => .step _ fun _ _ => .ok rfl
  refine change_bind_withLocks ?_ _ fun c => ?_
  · exact fun _ _ => .step _ fun _ _ => .ok rfl
  refine change_bind_withLocks ?_ _ fun c => ?_
  · exact fun _ _ => .ok rfl
  apply change_withLocks
  exact fun _ _ => .step _ fun _ _ => .ok rfl

theorem updateConfig_withLocks (r : ConfigRequest) : Rel Effect.SameButLocks
    (updateConfig s caller r) (updateConfig (s.withLocks locks) caller r) := by
  unfold updateConfig
  refine (ownedConfig_withLocks s locks caller.address).bind ?_
  rintro config _ rfl
  refine (revised_withLocks config locks r).bind ?_
  rintro config _ rfl
  exact .ok ⟨rfl, locks, rfl⟩

theorem setLock_withLocks (lock : Bool) : Rel Effect.SameButLocks
    (setLock s caller lock) (setLock (s.withLocks locks) caller lock) := by
  unfold setLock
  refine (ownedConfig_withLocks s locks caller.address).bind ?_
  rintro config _ rfl
  exact .ok ⟨rfl, { locks with owner := lock }, rfl⟩

/-- A request that no lock stops is answered alike whatever the locks are. -/
theorem execute_withLocks {request : Request} (h : request.stoppedByLock = false) :
    Rel Effect.SameButLocks (execute s env caller request)
      (execute (s.withLocks locks) env caller request) := by
  cases request with
  | cancel id => exact cancel_withLocks
  | updateConfig r => exact updateConfig_withLocks r
  | modify r => exact modify_withLocks r
  | determineWinner id => exact determineWinner_withLocks
  | receiveRandomness answer => exact receiveRandomness_withLocks answer
  | claim id => exact claim_withLocks
  | setLock lock => exact setLock_withLocks lock
  | updateRandomness id => exact updateRandomness_withLocks
  | _ => cases h

end Contract

/-- Along a run of which every step is taken while a lock is set, the stored raffles, the numbers of
sold tickets, the ledgers and the holdings stay. And the locks stop nothing else: two stores that
differ in the locks alone answer every request that neither enters a raffle nor sells tickets in the
same way, by the same failure or the same response, and differ in the locks alone afterwards. -/
theorem locks_stop_sales_and_creations_alone :
    (∀ {clock now s steps now' s'}, Run clock now s steps now' s' →
      (∀ step earlier now'' s'', step :: earlier <:+ steps →
        Run clock now s earlier now'' s'' → s''.Locked) → s.SameSales s') ∧
    ∀ {s s' : Store} {request : Request}, s.SameButLocks s' → request.stoppedByLock = false →
      ∀ env caller, Outcome.Rel (fun e e' => e'.2 = e.2 ∧ e.1.SameButLocks e'.1)
        (execute s env caller request) (execute s' env caller request) := by
  constructor
  · intro clock now s steps now' s' hrun hlocked
    exact hrun.keeps_sales hlocked
  · rintro s _ request ⟨locks, rfl⟩ hrequest env caller
    exact execute_withLocks hrequest

namespace Sample

def lock : Turn := .execute (Sample.env 7) ⟨"owner", []⟩ (.setLock true)

def locked : Store := lock.after sold

/-- A purchase that comes too late. -/
def lateSale : Turn :=
  .execute (Sample.env 8) ⟨"buyer", [coin 8 "ustars"]⟩ (.buy ⟨0, 2, .coin (coin 8 "ustars")⟩)

end Sample

/-- In the small run the owner's lock stops a second purchase, but not the draw. -/
theorem lock_of_sample_stops_sale :
    Sample.locked.SameSales (Sample.lateSale.after Sample.locked) ∧
    (∃ r, Sample.locked.raffles.get? 0 = some r ∧ r.sold = 2) ∧
    Sample.sold.SameButLocks Sample.locked ∧ Sample.sold ≠ Sample.locked ∧
    ∃ response, Sample.draw.response? Sample.sold = some response ∧
      Sample.draw.response? Sample.locked = some response := by
  obtain ⟨hsegment, halike⟩ := locks_stop_sales_and_creations_alone
  have hlocked : Sample.locked.Locked := ⟨_, rfl, rfl⟩
  have hrun : Run .forward ⟨7⟩ Sample.locked
      [⟨Sample.lateSale, Sample.lateSale.response? Sample.locked⟩] ⟨8⟩
      (Sample.lateSale.after Sample.locked) :=
    .turn Sample.lateSale .start (by decide : (⟨7⟩ : Timestamp) ≤ ⟨8⟩)
  have hsales : Sample.locked.SameSales (Sample.lateSale.after Sample.locked) := by
    apply hsegment hrun
    intro step earlier now'' s'' hsuffix hearlier
    obtain ⟨_, rfl⟩ : _ ∧ earlier = [] := by simpa [List.suffix_cons_iff] using hsuffix
    cases hearlier
    exact hlocked
  have hsame : Sample.sold.SameButLocks Sample.locked := ⟨⟨true, false⟩, rfl⟩
  obtain ⟨response, hdrawn⟩ : ∃ response, Sample.draw.outcome Sample.sold =
      .ok (Sample.drawn, response) := Turn.outcome_of_isSome (by decide)
  have hanswer : Request.stoppedByLock (.receiveRandomness ⟨Job.id 0 0, ⟨1000000005⟩,
      List.replicate 32 7⟩) = false := rfl
  have hdraws : Outcome.Rel (fun e e' => e'.2 = e.2 ∧ e.1.SameButLocks e'.1)
      (Sample.draw.outcome Sample.sold) (Sample.draw.outcome Sample.locked) :=
    halike hsame hanswer (Sample.env 1000000005) ⟨"nois", []⟩
  rw [hdrawn] at hdraws
  obtain ⟨⟨_, response'⟩, hanswered, hsameResponse, _⟩ := hdraws.exists_ok
  obtain rfl : response = response' := hsameResponse.symm
  exact ⟨hsales, ⟨_, rfl, rfl⟩, hsame, by decide, response, Turn.response?_of_ok hdrawn,
    Turn.response?_of_ok hanswered⟩

end Tombola
