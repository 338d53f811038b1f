import Tombola.Contract.Setup
import Tombola.Proofs.Value

/-!
# What an accepted setting has found and done

Setting the contract up writes a configuration into the store. A change of settings is accepted when
each setting that the request names passes its own check, and replaces exactly these settings. A
lock is set without touching anything else.
-/

namespace Tombola

/-- The address passes the check of addresses. -/
def Address.Accepted (a : Address) : Prop := a.check = .ok a

/-- The settings that a request names take their values, the others keep theirs. -/
def Config.applying (config : Config) (r : ConfigRequest) : Config := { config with
  name := r.name.getD config.name
  owner := r.owner.getD config.owner
  treasury := r.treasury.getD config.treasury
  minDuration := r.minDuration.getD config.minDuration
  minTimeout := r.minTimeout.getD config.minTimeout
  maxTickets := r.maxTickets.or config.maxTickets
  cut := r.cut.getD config.cut
  oracle := r.oracle.getD config.oracle
  oracleFee := r.oracleFee.getD config.oracleFee
  creationFees := r.creationFees.getD config.creationFees }

/-- What has been checked of every configuration. -/
structure Config.Valid (config : Config) : Prop where
  name : 3 ≤ config.name.utf8ByteSize ∧ config.name.utf8ByteSize ≤ 50
  owner : config.owner.Accepted
  treasury : config.treasury.Accepted
  minDuration : Config.leastMinDuration ≤ config.minDuration
  maxTickets : ∃ most, config.maxTickets = some most ∧ most ≠ 0
  cut : config.cut < .one
  oracle : config.oracle.Accepted
  creationFees : Coin.DistinctDenoms config.creationFees

/-- Each setting that a request names passes its own check. A least timeout and the oracle's fee
have none. -/
structure ConfigRequest.Allowed (r : ConfigRequest) : Prop where
  name : ∀ name, r.name = some name → 3 ≤ name.utf8ByteSize ∧ name.utf8ByteSize ≤ 50
  owner : ∀ a, r.owner = some a → a.Accepted
  treasury : ∀ a, r.treasury = some a → a.Accepted
  minDuration : ∀ d, r.minDuration = some d → Config.leastMinDuration ≤ d
  maxTickets : ∀ n, r.maxTickets = some n → n ≠ 0
  cut : ∀ cut, r.cut = some cut → cut < .one
  oracle : ∀ a, r.oracle = some a → a.Accepted
  creationFees : ∀ coins, r.creationFees = some coins → Coin.DistinctDenoms coins

/-- The locks and the last raffle are not checked. -/
theorem Config.Valid.unchecked {config : Config} (h : config.Valid) (locks : Locks)
    (lastRaffle : Option RaffleId) : Config.Valid { config with locks, lastRaffle } :=
  { h with }

/-- A setting is as it was or as it has been checked. -/
theorem getD_of_checked {α : Type} {p : α → Prop} {value : Option α} {a : α} (h : p a)
    (hvalue : ∀ b, value = some b → p b) : p (value.getD a) := by
  cases value with
  | none => exact h
  | some b => exact hvalue b rfl

/-- Settings that pass their checks leave a configuration valid. -/
theorem Config.Valid.applying {config : Config} {r : ConfigRequest} (h : config.Valid)
    (hr : r.Allowed) : (config.applying r).Valid where
  name := getD_of_checked (p := fun name : String => 3 ≤ name.utf8ByteSize ∧ name.utf8ByteSize ≤ 50)
    h.name hr.name
  owner := getD_of_checked h.owner hr.owner
  treasury := getD_of_checked h.treasury hr.treasury
  minDuration := getD_of_checked h.minDuration hr.minDuration
  maxTickets := by
    rw [Config.applying]
    cases hn : r.maxTickets with
    | none => exact h.maxTickets
    | some n => exact ⟨n, rfl, hr.maxTickets n hn⟩
  cut := getD_of_checked (p := (· < Decimal.one)) h.cut hr.cut
  oracle := getD_of_checked h.oracle hr.oracle
  creationFees := getD_of_checked h.creationFees hr.creationFees

namespace Contract

open Outcome

/-! ## One check at a time -/

theorem check_eq_ok {a b : Address} : a.check = .ok b ↔ a.Accepted ∧ b = a := by
  constructor
  · intro h
    have heq : b = a := by
      unfold Address.check at h
      split at h
      · cases h
      · split at h
        · cases h
        · obtain ⟨form, _, h⟩ := bind_eq_ok.mp h
          split at h
          · exact (Except.ok.inj h).symm
          · cases h
    rw [heq] at h
    exact ⟨h, heq⟩
  · rintro ⟨h, rfl⟩
    exact h

theorem validate_eq_ok {a b : Address} : a.validate = .ok b ↔ a.Accepted ∧ b = a :=
  mapError_eq_ok.trans check_eq_ok

theorem checkOracle_eq_ok {a b : Address} : checkOracle a = .ok b ↔ a.Accepted ∧ b = a :=
  mapError_eq_ok.trans check_eq_ok

theorem checkName_eq_ok {name : String} {u : Unit} :
    checkName name = .ok u ↔ 3 ≤ name.utf8ByteSize ∧ name.utf8ByteSize ≤ 50 := by
  rw [checkName, ensure_eq_ok, Config.isValidName, Bool.and_eq_true, decide_eq_true_eq,
    decide_eq_true_eq]

theorem checkMinDuration_eq_ok {d : Seconds} {u : Unit} :
    checkMinDuration d = .ok u ↔ Config.leastMinDuration ≤ d := by
  rw [checkMinDuration, ensure_eq_ok, decide_eq_true_eq]

theorem checkMaxTickets_eq_ok {n : TicketCount} {u : Unit} :
    checkMaxTickets n = .ok u ↔ n ≠ 0 := by
  rw [checkMaxTickets, ensure_eq_ok, decide_eq_true_eq]

theorem checkCut_eq_ok {cut : Decimal} {u : Unit} : checkCut cut = .ok u ↔ cut < .one := by
  rw [checkCut, ensure_eq_ok, decide_eq_true_eq]

theorem checkCreationFees_eq_ok {coins : List Coin} {u : Unit} :
    checkCreationFees coins = .ok u ↔ Coin.DistinctDenoms coins := by
  rw [checkCreationFees, ensure_eq_ok, Purse.ofCoins?_isSome_iff]

/-! ## Setting up -/

/-- The configuration that a setup leaves behind, when nothing of it has been refused. -/
structure Setup (caller : Caller) (r : SetupRequest) (config : Config) : Prop where
  owner : config.owner = r.owner.getD caller.address
  treasury : config.treasury = r.treasury.getD caller.address
  lastRaffle : config.lastRaffle = none
  valid : config.Valid
  maxTickets : config.maxTickets = some (r.maxTickets.getD Config.defaultMaxTickets)
  unlocked : config.locks.locked = false
  oracle : config.oracle = r.oracle
  oracleFee : config.oracleFee = r.oracleFee

theorem setup_eq_ok {s s' : Store} {caller : Caller} {r : SetupRequest} {response : Response}
    (h : setup s caller r = .ok (s', response)) :
    ∃ config, Setup caller r config ∧
      s' = { s with config := some config, version := some .current } ∧ response.messages = [] := by
  simp only [setup, bind_eq_ok, pure_eq_ok, Prod.mk.injEq, checkOracle_eq_ok, checkName_eq_ok,
    checkCreationFees_eq_ok, checkCut_eq_ok, checkMinDuration_eq_ok, checkMaxTickets_eq_ok,
    validate_eq_ok] at h
  obtain ⟨_, ⟨horacle, rfl⟩, _, hfees, _, hcut, _, hname, _, hduration, _, hmost, _,
    ⟨howner, rfl⟩, _, ⟨htreasury, rfl⟩, hs, hr⟩ := h
  refine ⟨_, ⟨rfl, rfl, rfl, ?_, rfl, rfl, rfl, rfl⟩, hs.symm, by rw [← hr]; rfl⟩
  exact ⟨hname, howner, htreasury, hduration, ⟨_, rfl, hmost⟩, hcut, horacle, hfees⟩

/-! ## Changing settings -/

/-- A value that is used once it has passed a check. -/
theorem checked_eq_ok {check : Outcome Unit} {c c' : Config} :
    (do check; pure c) = .ok c' ↔ check = .ok () ∧ c' = c := by
  rw [bind_eq_ok]
  constructor
  · rintro ⟨_, hcheck, h⟩
    exact ⟨hcheck, (pure_eq_ok.mp h).symm⟩
  · rintro ⟨hcheck, rfl⟩
    exact ⟨(), hcheck, rfl⟩

/-- An address that is used once it has been accepted. -/
theorem resolved_eq_ok {resolve : Address → Outcome Address} {a : Address} {f : Address → Config}
    {c' : Config} (hresolve : ∀ b, resolve a = .ok b ↔ a.Accepted ∧ b = a) :
    (do let b ← resolve a; pure (f b)) = .ok c' ↔ a.Accepted ∧ c' = f a := by
  rw [bind_eq_ok]
  constructor
  · rintro ⟨b, hb, h⟩
    obtain ⟨ha, rfl⟩ := (hresolve b).mp hb
    exact ⟨ha, (pure_eq_ok.mp h).symm⟩
  · rintro ⟨ha, rfl⟩
    exact ⟨a, (hresolve a).mpr ⟨ha, rfl⟩, rfl⟩

/-- A change of one setting gives it the value that is named, if there is one, once that has passed
its check. -/
theorem change_eq_ok {α : Type} {p : α → Prop} {value : Option α} {config config' : Config}
    {apply : α → Config → Outcome Config} (h : change value config apply = .ok config')
    (set : Config → Option α → Config) (hset : ∀ c, set c none = c)
    (happly : ∀ a c c', apply a c = .ok c' → p a ∧ c' = set c (some a)) :
    (∀ a, value = some a → p a) ∧ config' = set config value := by
  cases value with
  | none =>
      rw [hset]
      exact ⟨nofun, (pure_eq_ok.mp h).symm⟩
  | some a =>
      obtain ⟨hchecked, heq⟩ := happly a _ _ h
      refine ⟨?_, heq⟩
      rintro _ ⟨rfl⟩
      exact hchecked

/-- A change of one setting goes through when the value that is named, if any, can be set. -/
theorem exists_change {α : Type} {value : Option α} {config : Config}
    {apply : α → Config → Outcome Config}
    (h : ∀ a, value = some a → ∃ config', apply a config = .ok config') :
    ∃ config', change value config apply = .ok config' := by
  cases value with
  | none => exact ⟨config, rfl⟩
  | some a => exact h a rfl

/-- A change of settings has checked the settings that it names, and made no other change. -/
theorem allowed_of_revised {config config' : Config} {r : ConfigRequest}
    (h : revised config r = .ok config') : r.Allowed ∧ config' = config.applying r := by
  simp only [revised, bind_eq_ok] at h
  obtain ⟨c₁, h₁, c₂, h₂, c₃, h₃, c₄, h₄, c₅, h₅, c₆, h₆, c₇, h₇, c₈, h₈, c₉, h₉, h⟩ := h
  obtain ⟨hname, rfl⟩ := change_eq_ok h₁ (fun c v => { c with name := v.getD c.name })
    (fun _ => rfl) (fun _ _ _ => checked_eq_ok.mp)
  obtain ⟨howner, rfl⟩ := change_eq_ok h₂ (fun c v => { c with owner := v.getD c.owner })
    (fun _ => rfl) (fun _ _ _ => (resolved_eq_ok fun _ => validate_eq_ok).mp)
  obtain ⟨htreasury, rfl⟩ := change_eq_ok h₃ (fun c v => { c with treasury := v.getD c.treasury })
    (fun _ => rfl) (fun _ _ _ => (resolved_eq_ok fun _ => validate_eq_ok).mp)
  obtain ⟨hduration, rfl⟩ := change_eq_ok h₄
    (fun c v => { c with minDuration := v.getD c.minDuration })
    (fun _ => rfl) (fun _ _ _ => checked_eq_ok.mp)
  obtain ⟨_, rfl⟩ := change_eq_ok (p := fun _ => True) h₅
    (fun c v => { c with minTimeout := v.getD c.minTimeout })
    (fun _ => rfl) (fun _ _ _ h => ⟨trivial, (pure_eq_ok.mp h).symm⟩)
  obtain ⟨hmost, rfl⟩ := change_eq_ok h₆ (fun c v => { c with maxTickets := v.or c.maxTickets })
    (fun _ => rfl) (fun _ _ _ => checked_eq_ok.mp)
  obtain ⟨hcut, rfl⟩ := change_eq_ok h₇ (fun c v => { c with cut := v.getD c.cut })
    (fun _ => rfl) (fun _ _ _ => checked_eq_ok.mp)
  obtain ⟨horacle, rfl⟩ := change_eq_ok h₈ (fun c v => { c with oracle := v.getD c.oracle })
    (fun _ => rfl) (fun _ _ _ => (resolved_eq_ok fun _ => checkOracle_eq_ok).mp)
  obtain ⟨_, rfl⟩ := change_eq_ok (p := fun _ => True) h₉
    (fun c v => { c with oracleFee := v.getD c.oracleFee })
    (fun _ => rfl) (fun _ _ _ h => ⟨trivial, (pure_eq_ok.mp h).symm⟩)
  obtain ⟨hfees, rfl⟩ := change_eq_ok h
    (fun c v => { c with creationFees := v.getD c.creationFees })
    (fun _ => rfl) (fun _ _ _ => checked_eq_ok.mp)
  refine ⟨⟨?_, howner, htreasury, ?_, ?_, ?_, horacle, ?_⟩, rfl⟩
  · exact fun name hnamed => checkName_eq_ok.mp (hname name hnamed)
  · exact fun d hnamed => checkMinDuration_eq_ok.mp (hduration d hnamed)
  · exact fun n hnamed => checkMaxTickets_eq_ok.mp (hmost n hnamed)
  · exact fun cut hnamed => checkCut_eq_ok.mp (hcut cut hnamed)
  · exact fun coins hnamed => checkCreationFees_eq_ok.mp (hfees coins hnamed)

/-- A change of settings goes through when each setting that it names passes its check. -/
theorem exists_revised (config : Config) {r : ConfigRequest} (h : r.Allowed) :
    ∃ config', revised config r = .ok config' := by
  have checked {check : Outcome Unit} {c : Config} (hcheck : check = .ok ()) :
      ∃ c', (do check; pure c) = .ok c' := ⟨c, checked_eq_ok.mpr ⟨hcheck, rfl⟩⟩
  have resolved {resolve : Address → Outcome Address} {a : Address} {f : Address → Config}
      (hresolve : ∀ b, resolve a = .ok b ↔ a.Accepted ∧ b = a) (ha : a.Accepted) :
      ∃ c', (do let b ← resolve a; pure (f b)) = .ok c' :=
    ⟨f a, (resolved_eq_ok hresolve).mpr ⟨ha, rfl⟩⟩
  unfold revised
  refine exists_bind (exists_change fun name hname => ?_) fun _ => ?_
  · exact checked (checkName_eq_ok.mpr (h.name name hname))
  refine exists_bind (exists_change fun a ha => ?_) fun _ => ?_
  · exact resolved (fun _ => validate_eq_ok) (h.owner a ha)
  refine exists_bind (exists_change fun a ha => ?_) fun _ => ?_
  · exact resolved (fun _ => validate_eq_ok) (h.treasury a ha)
  refine exists_bind (exists_change fun d hd => ?_) fun _ => ?_
  · exact checked (checkMinDuration_eq_ok.mpr (h.minDuration d hd))
  refine exists_bind (exists_change fun _ _ => ?_) fun _ => ?_
  · exact ⟨_, rfl⟩
  refine exists_bind (exists_change fun n hn => ?_) fun _ => ?_
  · exact checked (checkMaxTickets_eq_ok.mpr (h.maxTickets n hn))
  refine exists_bind (exists_change fun cut hcut => ?_) fun _ => ?_
  · exact checked (checkCut_eq_ok.mpr (h.cut cut hcut))
  refine exists_bind (exists_change fun a ha => ?_) fun _ => ?_
  · exact resolved (fun _ => checkOracle_eq_ok) (h.oracle a ha)
  refine exists_bind (exists_change fun _ _ => ?_) fun _ => ?_
  · exact ⟨_, rfl⟩
  refine exists_change fun coins hcoins => ?_
  exact checked (checkCreationFees_eq_ok.mpr (h.creationFees coins hcoins))

theorem revised_eq_ok {config config' : Config} {r : ConfigRequest} :
    revised config r = .ok config' ↔ r.Allowed ∧ config' = config.applying r := by
  constructor
  · exact allowed_of_revised
  · rintro ⟨h, rfl⟩
    obtain ⟨config', hrevised⟩ := exists_revised config h
    rw [hrevised, (allowed_of_revised hrevised).2]

theorem ownedConfig_eq_ok {s : Store} {sender : Address} {config : Config} :
    ownedConfig s sender = .ok config ↔ s.config = some config ∧ sender = config.owner := by
  simp only [ownedConfig, Store.getConfig, bind_eq_ok, orRefuse_eq_ok, ensure_eq_ok,
    decide_eq_true_eq, pure_eq_ok]
  constructor
  · rintro ⟨c, hc, _, ho, rfl⟩
    exact ⟨hc, ho⟩
  · rintro ⟨hc, ho⟩
    exact ⟨config, hc, (), ho, rfl⟩

theorem updateConfig_eq_ok {s s' : Store} {caller : Caller} {r : ConfigRequest}
    {response : Response} (h : updateConfig s caller r = .ok (s', response)) :
    ∃ config, s.config = some config ∧ caller.address = config.owner ∧
      r.Allowed ∧ s' = s.putConfig (config.applying r) ∧ response.messages = [] := by
  simp only [updateConfig, bind_eq_ok, ownedConfig_eq_ok, revised_eq_ok, pure_eq_ok,
    Prod.mk.injEq] at h
  obtain ⟨config, ⟨hconfig, howner⟩, _, ⟨hallowed, rfl⟩, hs, hr⟩ := h
  exact ⟨config, hconfig, howner, hallowed, hs.symm, by rw [← hr]; rfl⟩

theorem setLock_eq_ok {s s' : Store} {caller : Caller} {lock : Bool} {response : Response}
    (h : setLock s caller lock = .ok (s', response)) :
    ∃ config, s.config = some config ∧ caller.address = config.owner ∧
      s' = s.putConfig { config with locks := { config.locks with owner := lock } } ∧
      response.messages = [] := by
  simp only [setLock, bind_eq_ok, ownedConfig_eq_ok, pure_eq_ok, Prod.mk.injEq] at h
  obtain ⟨config, ⟨hconfig, howner⟩, hs, hr⟩ := h
  exact ⟨config, hconfig, howner, hs.symm, by rw [← hr]; rfl⟩

theorem govern_eq_ok {s s' : Store} {lock : Bool} {response : Response}
    (h : govern s (.setLock lock) = .ok (s', response)) :
    ∃ config, s.config = some config ∧
      s' = s.putConfig { config with locks := { config.locks with governance := lock } } ∧
      response.messages = [] := by
  simp only [govern, Store.getConfig, bind_eq_ok, orRefuse_eq_ok, pure_eq_ok, Prod.mk.injEq] at h
  obtain ⟨config, hconfig, hs, hr⟩ := h
  exact ⟨config, hconfig, hs.symm, by rw [← hr]; rfl⟩

end Contract

end Tombola
