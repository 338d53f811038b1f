import Tombola.Proofs.Isolation

/-!
# Who can change what

The settings are the contract owner's to change, apart from the governance lock and the number of
the last raffle. What a raffle is sold for and under which options is its owner's to change, apart
from the duration, which the sale of the last ticket cuts. The draw is the oracle's. Whom a raffle
is from and what it gives away never changes.
-/

namespace Tombola

open Contract

namespace Turn

/-- The address that sends the request; orders of governance and migrations have none. -/
def sender? : Turn → Option Address
  | .execute _ caller _ => some caller.address
  | .govern _ _ => none
  | .migrate _ => none

/-- The raffle that a turn modifies when it goes through. -/
def modifies? : Turn → Option RaffleId
  | .execute _ _ (.modify r) => some r.raffle
  | _ => none

end Turn

/-- How a turn changes the configuration, and by whose authority. -/
inductive Config.Warrant (t : Turn) (config : Config) : Config → Prop
  | same : Warrant t config config
  | entered (id : RaffleId) : Warrant t config { config with lastRaffle := some id }
  | revised (r : ConfigRequest) (sender : t.sender? = some config.owner) :
      Warrant t config (config.applying r)
  | locked (lock : Bool) (sender : t.sender? = some config.owner) :
      Warrant t config { config with locks := { config.locks with owner := lock } }
  | governed {now request} (lock : Bool) (turn : t = .govern now request) :
      Warrant t config { config with locks := { config.locks with governance := lock } }

/-- How a turn changes the record of a raffle, and by whose authority. -/
inductive Raffle.Warrant (configured : Option Config) (t : Turn) (id : RaffleId) (r : Raffle) :
    Raffle → Prop
  | same : Warrant configured t id r r
  | modified {price options} (sender : t.sender? = some r.owner) (turn : t.modifies? = some id) :
      Warrant configured t id r { r with price, options }
  | sold {buyer sold duration} (turn : t.buys? = some (buyer, id))
      (last : duration = r.options.duration ∨ some sold = r.options.maxTickets) :
      Warrant configured t id r { r with sold, options := { r.options with duration } }
  | drawn {config winner randomness} (hconfig : configured = some config)
      (sender : t.sender? = some config.oracle) :
      Warrant configured t id r { r with winner, randomness }
  | cancelled (sender : t.sender? = some r.owner) :
      Warrant configured t id r { r with cancelled := true }
  | claimed : Warrant configured t id r { r with claimed := true }

variable {clock : Clock} {now : Timestamp} {s s' : Store} {t : Turn} {config config' : Config}
  {configured : Option Config} {id : RaffleId} {r r' : Raffle} {response : Response}

namespace Config.Warrant

/-- Only the owner changes settings. -/
theorem settings (h : config.Warrant t config') (hsender : t.sender? ≠ some config.owner) :
    config' = { config with
      lastRaffle := config'.lastRaffle
      locks := { config.locks with governance := config'.locks.governance } } := by
  cases h with
  | same => rfl
  | entered => rfl
  | revised _ sender => exact absurd sender hsender
  | locked _ sender => exact absurd sender hsender
  | governed => rfl

/-- Only governance turns its lock. -/
theorem governance (h : config.Warrant t config') (hturn : ∀ now request, t ≠ .govern now request) :
    config'.locks.governance = config.locks.governance := by
  cases h with
  | governed _ turn => exact absurd turn (hturn _ _)
  | _ => rfl

end Config.Warrant

namespace Raffle.Warrant

/-- What a raffle is about stays. -/
theorem lasting (h : r.Warrant configured t id r') : r'.owner = r.owner ∧ r'.prizes = r.prizes := by
  cases h <;> exact ⟨rfl, rfl⟩

/-- Only the owner of a raffle cancels it, or changes its price or an option other than the
duration. -/
theorem terms (h : r.Warrant configured t id r') (hsender : t.sender? ≠ some r.owner) :
    r'.cancelled = r.cancelled ∧ r'.price = r.price ∧
      { r'.options with duration := r.options.duration } = r.options := by
  cases h with
  | modified sender _ => exact absurd sender hsender
  | cancelled sender => exact absurd sender hsender
  | _ => exact ⟨rfl, rfl, rfl⟩

/-- A duration is changed by the owner, or cut by the sale of the last ticket. -/
theorem duration (h : r.Warrant configured t id r')
    (hduration : r'.options.duration ≠ r.options.duration) :
    (t.sender? = some r.owner ∧ t.modifies? = some id) ∨
      (∃ buyer, t.buys? = some (buyer, id)) ∧ some r'.sold = r.options.maxTickets := by
  cases h with
  | modified sender turn => exact .inl ⟨sender, turn⟩
  | sold turn last => exact .inr ⟨⟨_, turn⟩, last.resolve_left hduration⟩
  | _ => exact absurd rfl hduration

/-- Only the oracle draws. -/
theorem draw (h : r.Warrant (some config) t id r') (hsender : t.sender? ≠ some config.oracle) :
    r'.randomness = r.randomness ∧ r'.winner = r.winner := by
  cases h with
  | drawn hconfig sender =>
      obtain rfl := Option.some.inj hconfig
      exact absurd sender hsender
  | _ => exact ⟨rfl, rfl⟩

end Raffle.Warrant

/-- A sale counts the tickets, and cuts the duration when they are the last. -/
theorem Contract.afterSale_warrant {buyer : Address} (turn : t.buys? = some (buyer, id))
    (total : TicketCount) : r.Warrant configured t id (afterSale r t.now total) := by
  unfold afterSale
  split
  · next hlast => exact .sold turn (.inr hlast)
  · exact .sold turn (.inl rfl)

/-- Every turn that goes through changes the configuration by someone's authority. -/
theorem Turn.config_warrant (hconfig : s.config = some config)
    (hout : t.outcome s = .ok (s', response)) :
    ∃ config', s'.config = some config' ∧ config.Warrant t config' := by
  have hsame : s'.config = s.config → ∃ config', s'.config = some config' ∧
      config.Warrant t config' := fun heq => ⟨config, heq.trans hconfig, .same⟩
  have hnew (ht : t.creates = true) : ∃ config', s'.config = some config' ∧
      config.Warrant t config' := by
    obtain ⟨config₀, _, _, id, _, _, hnew, _, hconfig'⟩ := t.enters_next hout ht
    obtain rfl := Option.some.inj (hconfig.symm.trans hnew.configured)
    exact ⟨_, hconfig', .entered id⟩
  cases t with
  | execute env caller request =>
      have hkept {id : RaffleId} (hid : request.raffle? s = some id) :
          ∃ config', s'.config = some config' ∧
            config.Warrant (.execute env caller request) config' :=
        hsame (Request.keeps_config (hout : Contract.execute s env caller request = _) hid)
      cases request with
      | create r => exact hnew rfl
      | deposit d => exact hnew rfl
      | updateConfig r =>
          obtain ⟨config₀, hconfig₀, hsender, _, rfl, _⟩ := updateConfig_eq_ok hout
          obtain rfl := Option.some.inj (hconfig.symm.trans hconfig₀)
          exact ⟨_, rfl, .revised r (congrArg some hsender)⟩
      | setLock lock =>
          obtain ⟨config₀, hconfig₀, hsender, rfl, _⟩ := setLock_eq_ok hout
          obtain rfl := Option.some.inj (hconfig.symm.trans hconfig₀)
          exact ⟨_, rfl, .locked lock (congrArg some hsender)⟩
      | receiveRandomness answer =>
          obtain ⟨job, _, _, hdraw, _⟩ := receiveRandomness_eq_ok hout
          exact hkept (Option.map_eq_some_iff.mpr ⟨job, hdraw.awaited, rfl⟩)
      | cancel _ => exact hkept rfl
      | modify _ => exact hkept rfl
      | buy _ => exact hkept rfl
      | determineWinner _ => exact hkept rfl
      | claim _ => exact hkept rfl
      | updateRandomness _ => exact hkept rfl
  | govern now request =>
      cases request with
      | setLock lock =>
          obtain ⟨config₀, hconfig₀, rfl, _⟩ := govern_eq_ok hout
          obtain rfl := Option.some.inj (hconfig.symm.trans hconfig₀)
          exact ⟨_, rfl, .governed lock rfl⟩
  | migrate now =>
      obtain ⟨rfl, _⟩ := Prod.mk.inj (Except.ok.inj hout)
      exact hsame rfl

/-- Every turn that goes through changes the record of a raffle by someone's authority. -/
theorem Turn.warrant (hr : s.raffles.get? id = some r) (hout : t.outcome s = .ok (s', response)) :
    ∃ r', s'.raffles.get? id = some r' ∧ r.Warrant s.config t id r' := by
  have hsame : s'.raffles.get? id = s.raffles.get? id → ∃ r', s'.raffles.get? id = some r' ∧
      r.Warrant s.config t id r' := fun heq => ⟨r, heq.trans hr, .same⟩
  have hnew (ht : t.creates = true) : ∃ r', s'.raffles.get? id = some r' ∧
      r.Warrant s.config t id r' := by
    obtain ⟨_, _, _, new, _, _, hnew, hc, _⟩ := t.enters_next hout ht
    have hne : some new ≠ some id := by
      rintro ⟨⟩
      exact hnew.ne_some r hr
    exact hsame (hc.agree hne).raffle
  have hother {focus : RaffleId} (hc : Change s t (some focus) s') (hne : id ≠ focus) :
      ∃ r', s'.raffles.get? id = some r' ∧ r.Warrant s.config t id r' :=
    hsame (hc.agree fun heq => hne (Option.some.inj heq).symm).raffle
  cases t with
  | execute env caller request =>
      cases request with
      | create r => exact hnew rfl
      | deposit d => exact hnew rfl
      | updateConfig r =>
          obtain ⟨_, _, _, _, rfl, _⟩ := updateConfig_eq_ok hout
          exact hsame rfl
      | setLock lock =>
          obtain ⟨_, _, _, rfl, _⟩ := setLock_eq_ok hout
          exact hsame rfl
      | cancel focus =>
          obtain ⟨_, _, h, _⟩ := cancel_eq_ok hout
          by_cases hid : id = focus
          · subst hid
            obtain rfl := Option.some.inj (hr.symm.trans h.kept)
            exact ⟨_, h.record, .cancelled (congrArg some h.owner)⟩
          · exact hother (.cancellation h rfl) hid
      | modify m =>
          obtain ⟨_, _, h, _⟩ := modify_eq_ok hout
          by_cases hid : id = m.raffle
          · subst hid
            obtain rfl := Option.some.inj (hr.symm.trans h.kept)
            exact ⟨_, h.record, .modified (congrArg some h.owner) rfl⟩
          · exact hother (.modification h) hid
      | buy b =>
          obtain ⟨_, _, h, _⟩ := buy_eq_ok hout
          by_cases hid : id = b.raffle
          · subst hid
            obtain rfl := Option.some.inj (hr.symm.trans h.kept)
            exact ⟨_, h.record, afterSale_warrant rfl _⟩
          · exact hother (.sale h rfl) hid
      | determineWinner focus =>
          obtain ⟨rfl, _⟩ | ⟨_, _, h, _⟩ := determineWinner_eq_ok hout
          · exact hsame rfl
          · rw [h.store, raffles_requestRandomness] at hsame ⊢
            exact hsame rfl
      | receiveRandomness answer =>
          obtain ⟨job, _, _, h, ⟨config, hconfig, horacle⟩, _⟩ := receiveRandomness_eq_ok hout
          by_cases hid : id = job.raffle
          · subst hid
            obtain rfl := Option.some.inj (hr.symm.trans h.kept)
            exact ⟨_, h.record, .drawn hconfig (congrArg some horacle)⟩
          · exact hother (.draw h rfl) hid
      | claim focus =>
          obtain ⟨_, _, _, h, _⟩ := claim_eq_ok hout
          by_cases hid : id = focus
          · subst hid
            obtain rfl := Option.some.inj (hr.symm.trans h.kept)
            exact ⟨_, h.record, .claimed⟩
          · exact hother (.claim h rfl) hid
      | updateRandomness focus =>
          obtain ⟨_, _, _, h, _⟩ := updateRandomness_eq_ok hout
          rw [h.store, raffles_requestRandomness] at hsame ⊢
          exact hsame rfl
  | govern now request =>
      cases request with
      | setLock lock =>
          obtain ⟨_, _, rfl, _⟩ := govern_eq_ok hout
          exact hsame rfl
  | migrate now =>
      obtain ⟨rfl, _⟩ := Prod.mk.inj (Except.ok.inj hout)
      exact hsame rfl

/-- A raffle that is entered has not been drawn. -/
theorem Turn.entered_undrawn (hfresh : s.raffles.get? id = none)
    (hout : t.outcome s = .ok (s', response)) (hr : s'.raffles.get? id = some r) :
    r.randomness = none ∧ r.winner = none := by
  obtain ⟨focus, hc⟩ := Turn.change hout
  cases hc.raffle id with
  | same raffle _ _ => rw [raffle, hfresh] at hr; cases hr
  | entered hnew raffle _ _ _ =>
      obtain rfl := Option.some.inj (raffle.symm.trans hr)
      rw [hnew.entered]
      exact ⟨rfl, rfl⟩
  | revised kept _ _ _ _ => rw [hfresh] at kept; cases kept
  | sold hsale _ =>
      have hkept := hsale.kept
      rw [hfresh] at hkept
      cases hkept

/-- What a step that goes through changes, it changes by the authority of the one who takes it.
Unless the contract's owner sends it, the configuration keeps all but the last raffle and the
governance lock, and that lock is turned by governance alone. A stored raffle keeps its owner and
its prizes. Unless its own owner sends the step it is not cancelled and keeps its price and all
options but the duration, which is changed only where its owner modifies it and where a sale reaches
its limit. Unless the oracle sends it, no randomness and no winner changes. A migration marks the
version, and nothing else. -/
theorem authority_over_state (h : Reachable clock now s)
    (hout : t.outcome s = .ok (s', response)) : ∃ config config',
    s.config = some config ∧ s'.config = some config' ∧
    (t.sender? ≠ some config.owner → config' = { config with
      lastRaffle := config'.lastRaffle
      locks := { config.locks with governance := config'.locks.governance } }) ∧
    ((∀ now request, t ≠ .govern now request) →
      config'.locks.governance = config.locks.governance) ∧
    (∀ id r, s.raffles.get? id = some r → ∃ r', s'.raffles.get? id = some r' ∧
      r'.owner = r.owner ∧ r'.prizes = r.prizes ∧
      (t.sender? ≠ some r.owner → r'.cancelled = r.cancelled ∧ r'.price = r.price ∧
        { r'.options with duration := r.options.duration } = r.options) ∧
      (r'.options.duration ≠ r.options.duration →
        (t.sender? = some r.owner ∧ t.modifies? = some id) ∨
        (∃ buyer, t.buys? = some (buyer, id)) ∧ some r'.sold = r.options.maxTickets)) ∧
    (t.sender? ≠ some config.oracle → ∀ id,
      (s'.raffles.get? id).bind (·.randomness) = (s.raffles.get? id).bind (·.randomness) ∧
      (s'.raffles.get? id).bind (·.winner) = (s.raffles.get? id).bind (·.winner)) ∧
    ∀ now, t = .migrate now → s' = { s with version := s'.version } := by
  obtain ⟨config, hconfig⟩ := h.configured
  obtain ⟨config', hconfig', hwarrant⟩ := Turn.config_warrant hconfig hout
  refine ⟨config, config', hconfig, hconfig', hwarrant.settings, hwarrant.governance, ?_, ?_, ?_⟩
  · intro id r hr
    obtain ⟨r', hr', hw⟩ := Turn.warrant hr hout
    exact ⟨r', hr', hw.lasting.1, hw.lasting.2, hw.terms, hw.duration⟩
  · intro hsender id
    cases hr : s.raffles.get? id with
    | some r =>
        obtain ⟨r', hr', hw⟩ := Turn.warrant hr hout
        rw [hconfig] at hw
        rw [hr']
        exact hw.draw hsender
    | none =>
        cases hr' : s'.raffles.get? id with
        | none => exact ⟨rfl, rfl⟩
        | some r' => exact Turn.entered_undrawn hr hout hr'
  · rintro now rfl
    obtain ⟨rfl, _⟩ := Prod.mk.inj (Except.ok.inj hout)
    rfl

/-- In the small run a purchase changes neither the terms of the raffle nor its draw. -/
theorem sample_sale_keeps_terms : ∃ r r', Sample.created.raffles.get? 0 = some r ∧
    Sample.sold.raffles.get? 0 = some r' ∧ r.sold = 0 ∧ r'.sold = 2 ∧ r'.owner = r.owner ∧
    r'.prizes = r.prizes ∧ r'.cancelled = r.cancelled ∧ r'.price = r.price ∧
    r'.options = r.options ∧ r'.randomness = r.randomness := by
  obtain ⟨response, hout⟩ : ∃ response, Sample.sale.outcome Sample.created =
      .ok (Sample.sold, response) := Turn.outcome_of_isSome (by decide)
  obtain ⟨r, hr, howner, hmost, hnone⟩ : ∃ r, Sample.created.raffles.get? 0 = some r ∧
      r.owner = "owner" ∧ r.options.maxTickets = some 100000 ∧ r.sold = 0 := ⟨_, rfl, rfl, rfl, rfl⟩
  obtain ⟨r₂, hr₂, hsold⟩ : ∃ r, Sample.sold.raffles.get? 0 = some r ∧ r.sold = 2 := ⟨_, rfl, rfl⟩
  obtain ⟨config, horacle⟩ : ∃ config, Sample.created.config = some config ∧
      config.oracle = "nois" := ⟨_, rfl, rfl⟩
  obtain ⟨config', _, hconfig', _, _, _, hraffles, hdraw, _⟩ :=
    authority_over_state Sample.created_reachable hout
  obtain rfl := Option.some.inj (horacle.1.symm.trans hconfig')
  obtain ⟨r', hr', hfrom, hprizes, hterms, hduration⟩ := hraffles 0 r hr
  obtain rfl := Option.some.inj (hr₂.symm.trans hr')
  have hbuyer : Sample.sale.sender? = some "buyer" := rfl
  obtain ⟨hcancelled, hprice, hoptions⟩ := hterms (by rw [hbuyer, howner]; decide)
  have hsame : r₂.options.duration = r.options.duration := by
    by_contra hne
    rcases hduration hne with ⟨hsender, _⟩ | ⟨_, hlast⟩
    · rw [hbuyer, howner] at hsender
      exact absurd hsender (by decide)
    · rw [hsold, hmost] at hlast
      exact absurd hlast (by decide)
  have hrandomness := (hdraw (by rw [hbuyer, horacle.2]; decide) 0).1
  rw [hr, hr₂] at hrandomness
  exact ⟨r, r₂, hr, hr₂, hnone, hsold, hfrom, hprizes, hcancelled, hprice,
    by rw [← hoptions, ← hsame], hrandomness⟩

end Tombola
