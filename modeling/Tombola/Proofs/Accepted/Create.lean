import Tombola.Contract.Create
import Tombola.Proofs.Accepted.Randomness

/-!
# What an accepted creation has found and done

Both ways to create a raffle enter it under the id after the last one, which no raffle has yet. What
the caller attached is what the prizes, the oracle's fee and the creation fee come to.
-/

namespace Tombola.Contract

open Outcome

/-- A new raffle that is entered into the store. -/
structure Creation (s : Store) (now : Timestamp) (config : Config) (r : CreateRequest)
    (owner : Address) (id : RaffleId) (raffle : Raffle) (s' : Store) : Prop where
  configured : s.config = some config
  unlocked : config.locks.locked = false
  prizes : r.prizes ≠ [] ∧ Asset.allDistinct r.prizes ∧ ∀ a ∈ r.prizes, a.isEmptyCoin = false
  priced : checkPrice r.price = .ok ()
  checked : r.options.check config = .ok ()
  number : id.toNat = match config.lastRaffle with
    | none => 0
    | some last => last.toNat + 1
  fresh : s.raffles.get? id = none
  entered : raffle = {
    owner
    prizes := r.prizes
    price := r.price
    sold := 0
    randomness := none
    winner := none
    cancelled := false
    claimed := false
    options := .ofRequest now r.prizes.length r.options config }
  store : s' = (s.putConfig { config with lastRaffle := some id }).putRaffle id raffle

/-- The first request for randomness of a new raffle, to be answered once it closes. -/
structure Autocycle (s : Store) (now : Timestamp) (config : Config) (id : RaffleId)
    (raffle : Raffle) (closing : Timestamp) (s' : Store) : Prop where
  closes : raffle.closing? = some closing
  store : s' = (requestRandomness s now config id 0 (some closing)).1

namespace Creation

variable {s s' : Store} {now : Timestamp} {config : Config} {r : CreateRequest} {owner : Address}
  {id : RaffleId} {raffle : Raffle}

theorem record (h : Creation s now config r owner id raffle s') :
    s'.raffles.get? id = some raffle := by
  rw [h.store, Store.raffles_putRaffle_self]

/-- The id of a raffle that is entered is not taken. -/
theorem ne_some (h : Creation s now config r owner id raffle s') (other : Raffle) :
    s.raffles.get? id ≠ some other := by
  rw [h.fresh]
  exact (Option.some_ne_none other).symm

theorem unsettled (h : Creation s now config r owner id raffle s') : raffle.Unsettled := by
  rw [h.entered]
  exact ⟨rfl, rfl⟩

/-- A start in the past is moved to the time of the creation. -/
theorem now_le_start (h : Creation s now config r owner id raffle s') :
    now ≤ raffle.options.start := by
  rw [h.entered]
  exact le_max_right _ _

end Creation

/-- The first request for randomness leaves the record of the raffle as it is. -/
theorem Autocycle.record {s s' : Store} {now : Timestamp} {config : Config} {id : RaffleId}
    {raffle : Raffle} {closing : Timestamp} (h : Autocycle s now config id raffle closing s')
    (hr : s.raffles.get? id = some raffle) : s'.raffles.get? id = some raffle := by
  rw [h.store, raffles_requestRandomness, hr]

theorem enterRaffle_eq_ok {s s' : Store} {now : Timestamp} {config : Config} {r : CreateRequest}
    {owner : Address} {id : RaffleId} {raffle : Raffle} (configured : s.config = some config)
    (unlocked : config.locks.locked = false)
    (prizes : r.prizes ≠ [] ∧ Asset.allDistinct r.prizes ∧ ∀ a ∈ r.prizes, a.isEmptyCoin = false)
    (priced : checkPrice r.price = .ok ()) (checked : r.options.check config = .ok ())
    (h : enterRaffle s now config owner r.prizes r.price r.options = .ok (s', id, raffle)) :
    Creation s now config r owner id raffle s' := by
  unfold enterRaffle at h
  obtain ⟨kept, hkept, h⟩ := bind_eq_ok.mp h
  obtain rfl : config = kept :=
    Option.some.inj (configured.symm.trans (orRefuse_eq_ok.mp hkept))
  cases hlast : config.lastRaffle with
  | none =>
      simp only [hlast] at h
      obtain ⟨next, hnext, h⟩ := bind_eq_ok.mp h
      obtain rfl := pure_eq_ok.mp hnext
      obtain ⟨id', hid, h⟩ := bind_eq_ok.mp h
      obtain rfl := Option.some.inj (orRefuse_eq_ok.mp hid)
      obtain ⟨_, hfresh, h⟩ := bind_eq_ok.mp h
      rw [pure_eq_ok, Prod.mk.injEq, Prod.mk.injEq] at h
      obtain ⟨rfl, rfl, rfl⟩ := h
      exact ⟨configured, unlocked, prizes, priced, checked, by rw [hlast]; rfl,
        by simpa [Store.putConfig, ensure_eq_ok] using hfresh, rfl, rfl⟩
  | some last =>
      by_cases hlt : last.toNat + 1 < UInt64.size
      · simp only [hlast, hlt, if_true] at h
        obtain ⟨next, hnext, h⟩ := bind_eq_ok.mp h
        obtain rfl := pure_eq_ok.mp hnext
        obtain ⟨id', hid, h⟩ := bind_eq_ok.mp h
        obtain rfl := Option.some.inj (orRefuse_eq_ok.mp hid)
        obtain ⟨_, hfresh, h⟩ := bind_eq_ok.mp h
        rw [pure_eq_ok, Prod.mk.injEq, Prod.mk.injEq] at h
        obtain ⟨rfl, rfl, rfl⟩ := h
        refine ⟨configured, unlocked, prizes, priced, checked, ?_,
          by simpa [Store.putConfig, ensure_eq_ok] using hfresh, rfl, rfl⟩
        rw [hlast, UInt64.toNat_add, UInt64.toNat_one, Nat.mod_eq_of_lt hlt]
      · simp only [hlast, hlt, if_false] at h
        cases h

theorem checkPrizes_eq_ok {prizes : List Asset} {u : Unit} : checkPrizes prizes = .ok u ↔
    prizes ≠ [] ∧ Asset.allDistinct prizes ∧ ∀ a ∈ prizes, a.isEmptyCoin = false := by
  simp [checkPrizes, bind_eq_ok, ensure_eq_ok]

theorem checkPrice_eq_ok {price : Asset} {u : Unit} : checkPrice price = .ok u ↔
    ∃ c, price = .coin c ∧ c.amount.isZero = false := by
  cases price with
  | coin c => simp [checkPrice, ensure_eq_ok]
  | _ => simp [checkPrice, refuse_ne_ok]

theorem createChecks_eq_ok {s : Store} {caller : Caller} {r : CreateRequest} {config : Config}
    {purse : Purse} (h : createChecks s caller r = .ok (config, purse)) :
    s.config = some config ∧ config.locks.locked = false ∧
      (r.prizes ≠ [] ∧ Asset.allDistinct r.prizes ∧ ∀ a ∈ r.prizes, a.isEmptyCoin = false) ∧
      checkPrice r.price = .ok () ∧ r.options.check config = .ok () ∧
      Purse.ofCoins? caller.funds = some purse := by
  simp only [createChecks, Store.getConfig, Payment.purseOf, bind_eq_ok, pure_eq_ok, orRefuse_eq_ok,
    ensure_eq_ok, checkPrizes_eq_ok, Prod.mk.injEq] at h
  obtain ⟨config, hconfig, _, hlock, _, hprizes, _, hprice, _, hoptions, purse, hpurse, rfl, rfl⟩ :=
    h
  exact ⟨hconfig, by simpa using hlock, hprizes, hprice, hoptions, hpurse⟩

section Prizes

variable {env : Surroundings} {sender : Address} {prizes : List Asset} {purse left : Purse}
  {messages : List Message}

theorem ensureOwner_eq_ok {t : Token} {u : Unit} (h : env.ensureOwner sender t = .ok u) :
    env.ownerOf t.collection t.id = .ok sender := by
  obtain ⟨owner, howner, h⟩ := bind_eq_ok.mp h
  obtain rfl : owner = sender := of_decide_eq_true (ensure_eq_ok.mp h)
  exact mapError_eq_ok.mp howner

/-- A token is taken from its owner, and the purse stays for the prizes after it. -/
theorem takePrizes_token {asset : Asset} {rest : List Asset} {t : Token}
    (ht : asset.token? = some t)
    (h : takePrizes env sender (asset :: rest) purse = .ok (messages, left)) :
    env.ownerOf t.collection t.id = .ok sender ∧ ∃ later,
      takePrizes env sender rest purse = .ok (later, left) ∧
      messages = transfer env.self asset :: later := by
  cases asset with
  | coin c => cases ht
  | cw721 u =>
      obtain rfl := Option.some.inj ht
      obtain ⟨_, howned, h⟩ := bind_eq_ok.mp h
      obtain ⟨⟨later, left'⟩, hrest, h⟩ := bind_eq_ok.mp h
      obtain ⟨rfl, rfl⟩ := Prod.mk.inj (pure_eq_ok.mp h)
      exact ⟨ensureOwner_eq_ok howned, later, hrest, rfl⟩
  | sg721 u =>
      obtain rfl := Option.some.inj ht
      obtain ⟨_, howned, h⟩ := bind_eq_ok.mp h
      obtain ⟨⟨later, left'⟩, hrest, h⟩ := bind_eq_ok.mp h
      obtain ⟨rfl, rfl⟩ := Prod.mk.inj (pure_eq_ok.mp h)
      exact ⟨ensureOwner_eq_ok howned, later, hrest, rfl⟩

theorem ensureOwner_of_owned {t : Token} (h : env.ownerOf t.collection t.id = .ok sender) :
    env.ensureOwner sender t = .ok () := by
  simp [Surroundings.ensureOwner, h, Except.mapError, ok_bind, ensure]

/-- A token of the sender's own is moved before the later prizes. -/
theorem takePrizes_cons_of_owned {asset : Asset} {rest : List Asset} {t : Token}
    (ht : asset.token? = some t) (howner : env.ownerOf t.collection t.id = .ok sender)
    (hrest : takePrizes env sender rest purse = .ok (messages, left)) :
    takePrizes env sender (asset :: rest) purse =
      .ok (transfer env.self asset :: messages, left) := by
  have howned := ensureOwner_of_owned howner
  cases asset with
  | coin c => cases ht
  | cw721 u =>
      obtain rfl := Option.some.inj ht
      rw [takePrizes, howned, ok_bind, hrest]
      rfl
  | sg721 u =>
      obtain rfl := Option.some.inj ht
      rw [takePrizes, howned, ok_bind, hrest]
      rfl

/-- Taking prizes sends no coins and lowers the purse by what the coins among them are worth. -/
theorem total_takePrizes (h : takePrizes env sender prizes purse = .ok (messages, left))
    (d : Denom) : Message.total messages d = 0 ∧
      (purse.amountOf d).val = Asset.total prizes d + (left.amountOf d).val := by
  induction prizes generalizing purse messages with
  | nil =>
      obtain ⟨rfl, rfl⟩ := Prod.mk.inj (pure_eq_ok.mp h)
      exact ⟨rfl, (Nat.zero_add _).symm⟩
  | cons asset rest ih =>
      rw [Asset.total_cons]
      cases asset with
      | coin c =>
          obtain ⟨purse', htake, h⟩ := bind_eq_ok.mp h
          obtain ⟨hm, hp⟩ := ih h
          have := Purse.amountOf_sub? (Payment.take_eq_ok.mp htake) d
          refine ⟨hm, ?_⟩
          simp only [Asset.worth]
          omega
      | cw721 t =>
          obtain ⟨_, ms, hrest, rfl⟩ := takePrizes_token rfl h
          obtain ⟨hm, hp⟩ := ih hrest
          exact ⟨by simp [transfer, Message.coins, hm], by simp only [Asset.worth]; omega⟩
      | sg721 t =>
          obtain ⟨_, ms, hrest, rfl⟩ := takePrizes_token rfl h
          obtain ⟨hm, hp⟩ := ih hrest
          exact ⟨by simp [transfer, Message.coins, hm], by simp only [Asset.worth]; omega⟩

/-- Prizes are taken by moving the tokens among them to the contract. -/
theorem takePrizes_messages (h : takePrizes env sender prizes purse = .ok (messages, left)) :
    messages = (prizes.filter fun a => a.token?.isSome).map (transfer env.self) := by
  induction prizes generalizing purse messages with
  | nil => exact (Prod.mk.inj (pure_eq_ok.mp h)).1.symm
  | cons asset rest ih =>
      cases asset with
      | coin c =>
          obtain ⟨purse', _, h⟩ := bind_eq_ok.mp h
          exact ih h
      | cw721 t =>
          obtain ⟨_, ms, hrest, rfl⟩ := takePrizes_token rfl h
          rw [ih hrest]
          rfl
      | sg721 t =>
          obtain ⟨_, ms, hrest, rfl⟩ := takePrizes_token rfl h
          rw [ih hrest]
          rfl

/-- Every token among the prizes is the sender's before it is taken. -/
theorem owner_of_takePrizes (h : takePrizes env sender prizes purse = .ok (messages, left))
    {prize : Asset} (hprize : prize ∈ prizes) {t : Token} (ht : prize.token? = some t) :
    env.ownerOf t.collection t.id = .ok sender := by
  induction prizes generalizing purse messages with
  | nil => cases hprize
  | cons asset rest ih =>
      cases hasset : asset.token? with
      | none =>
          cases asset with
          | coin c =>
              obtain ⟨purse', _, h⟩ := bind_eq_ok.mp h
              rcases List.mem_cons.mp hprize with rfl | hprize
              · cases ht
              · exact ih h hprize
          | _ => cases hasset
      | some u =>
          obtain ⟨howner, ms, hrest, _⟩ := takePrizes_token hasset h
          rcases List.mem_cons.mp hprize with rfl | hprize
          · obtain rfl := Option.some.inj (hasset.symm.trans ht)
            exact howner
          · exact ih hrest hprize

end Prizes

/-- What the oracle is paid when a raffle is created. -/
def oracleShare (config : Config) (r : CreateRequest) (d : Denom) : Nat :=
  if r.autocycle.getD false then config.oracleFee.worth d else 0

/-- The purse holds the prizes, the oracle's share and the creation fee that is sent on. -/
theorem total_collect {env : Surroundings} {config : Config} {caller : Caller} {r : CreateRequest}
    {purse : Purse} {messages : List Message}
    (h : collect env config caller r purse = .ok messages) (d : Denom) :
    (purse.amountOf d).val =
      Asset.total r.prizes d + oracleShare config r d + Message.total messages d := by
  unfold collect at h
  obtain ⟨⟨taken, p₁⟩, htaken, h⟩ := bind_eq_ok.mp h
  obtain ⟨hm, h₁⟩ := total_takePrizes htaken d
  dsimp only at h
  obtain ⟨p₂, horacle, h⟩ := ite_bind_eq_ok.mp h
  have h₂ : (p₁.amountOf d).val = oracleShare config r d + (p₂.amountOf d).val := by
    by_cases hauto : r.autocycle.getD false = true
    · rw [if_pos hauto] at horacle
      rw [oracleShare, if_pos hauto]
      exact Purse.amountOf_sub? (Payment.take_eq_ok.mp horacle) d
    · rw [if_neg hauto] at horacle
      obtain rfl := pure_eq_ok.mp horacle
      rw [oracleShare, if_neg hauto, Nat.zero_add]
  obtain ⟨fee, _, h⟩ := bind_eq_ok.mp h
  cases fee with
  | none =>
      obtain ⟨_, hpair, h⟩ := bind_eq_ok.mp h
      obtain rfl := pure_eq_ok.mp hpair
      obtain ⟨_, hempty, h⟩ := bind_eq_ok.mp h
      obtain rfl := pure_eq_ok.mp h
      have h₃ : (p₂.amountOf d).val = 0 := Purse.amountOf_of_isEmpty (ensure_eq_ok.mp hempty) d
      rw [hm]
      omega
  | some c =>
      obtain ⟨p₃, hpaid, h⟩ := bind_eq_ok.mp h
      obtain ⟨_, hpair, h⟩ := bind_eq_ok.mp h
      obtain rfl := pure_eq_ok.mp hpair
      obtain ⟨_, hempty, h⟩ := bind_eq_ok.mp h
      obtain rfl := pure_eq_ok.mp h
      have h₃ := Purse.amountOf_sub? (Payment.take_eq_ok.mp hpaid) d
      have h₄ : (p₃.amountOf d).val = 0 := Purse.amountOf_of_isEmpty (ensure_eq_ok.mp hempty) d
      rw [Message.total_append, hm]
      simp only [Message.total_cons, Message.total_nil, Message.coins, Coin.total_cons,
        Coin.total_nil]
      omega

/-- The prizes are taken first, and then the creation fee is paid to the treasury, if there is one;
it is not zero. -/
theorem collect_eq_ok {env : Surroundings} {config : Config} {caller : Caller} {r : CreateRequest}
    {purse : Purse} {messages : List Message}
    (h : collect env config caller r purse = .ok messages) :
    ∃ taken left, takePrizes env caller.address r.prizes purse = .ok (taken, left) ∧
      (messages = taken ∨ ∃ fee, fee.amount.isZero = false ∧
        messages = taken ++ [.send config.treasury [fee]]) := by
  unfold collect at h
  obtain ⟨⟨taken, left⟩, htaken, h⟩ := bind_eq_ok.mp h
  dsimp only at h
  obtain ⟨p₂, _, h⟩ := ite_bind_eq_ok.mp h
  obtain ⟨fee, hfee, h⟩ := bind_eq_ok.mp h
  cases fee with
  | none =>
      obtain ⟨_, hpair, h⟩ := bind_eq_ok.mp h
      obtain rfl := pure_eq_ok.mp hpair
      obtain ⟨_, _, h⟩ := bind_eq_ok.mp h
      exact ⟨taken, left, htaken, .inl (pure_eq_ok.mp h).symm⟩
  | some c =>
      obtain ⟨p₃, _, h⟩ := bind_eq_ok.mp h
      obtain ⟨_, hpair, h⟩ := bind_eq_ok.mp h
      obtain rfl := pure_eq_ok.mp hpair
      obtain ⟨_, _, h⟩ := bind_eq_ok.mp h
      have hpriced := (Payment.fee?_eq_some (orRefuse_eq_ok.mp hfee)).2.1
      exact ⟨taken, left, htaken, .inr ⟨c, hpriced, (pure_eq_ok.mp h).symm⟩⟩

/-- A new raffle moves tokens to the contract and coins to the treasury. -/
theorem collect_messages {env : Surroundings} {config : Config} {caller : Caller}
    {r : CreateRequest} {purse : Purse} {messages : List Message}
    (h : collect env config caller r purse = .ok messages) : ∀ m ∈ messages,
      (∃ prize ∈ r.prizes, prize.token?.isSome ∧ m = transfer env.self prize) ∨
        ∃ fee, fee.amount.isZero = false ∧ m = .send config.treasury [fee] := by
  obtain ⟨taken, left, htaken, hmessages⟩ := collect_eq_ok h
  have htokens : ∀ m ∈ taken, ∃ prize ∈ r.prizes, prize.token?.isSome ∧
      m = transfer env.self prize := by
    intro m hm
    rw [takePrizes_messages htaken] at hm
    obtain ⟨prize, hprize, rfl⟩ := List.mem_map.mp hm
    obtain ⟨hmem, htoken⟩ := List.mem_filter.mp hprize
    exact ⟨prize, hmem, htoken, rfl⟩
  intro m hm
  rcases hmessages with rfl | ⟨fee, hpriced, rfl⟩
  · exact .inl (htokens m hm)
  · rcases List.mem_append.mp hm with hm | hm
    · exact .inl (htokens m hm)
    · exact .inr ⟨fee, hpriced, List.mem_singleton.mp hm⟩

/-- An accepted creation enters a raffle and, on request, asks for its randomness. -/
theorem create_eq_ok {s s' : Store} {env : Surroundings} {caller : Caller} {r : CreateRequest}
    {response : Response} (h : create s env caller r = .ok (s', response)) :
    ∃ config purse messages owner id raffle entered,
      Creation s env.now config r owner id raffle entered ∧
      Purse.ofCoins? caller.funds = some purse ∧
      collect env config caller r purse = .ok messages ∧
      namedOwner r.owner caller.address = .ok owner ∧
      ((r.autocycle.getD false = false ∧ s' = entered ∧ response.messages = messages) ∨
        ∃ closing, r.autocycle.getD false = true ∧
          Autocycle entered env.now config id raffle closing s' ∧
          response.messages = messages ++
            [(requestRandomness entered env.now config id 0 (some closing)).2.2]) := by
  unfold create at h
  obtain ⟨⟨config, purse⟩, hchecks, h⟩ := bind_eq_ok.mp h
  obtain ⟨hconfig, hlock, hprizes, hprice, hoptions, hpurse⟩ := createChecks_eq_ok hchecks
  obtain ⟨messages, hmessages, h⟩ := bind_eq_ok.mp h
  obtain ⟨owner, howner, h⟩ := bind_eq_ok.mp h
  obtain ⟨⟨entered, id, raffle⟩, henter, h⟩ := bind_eq_ok.mp h
  refine ⟨config, purse, messages, owner, id, raffle, entered,
    enterRaffle_eq_ok hconfig hlock hprizes hprice hoptions henter, hpurse, hmessages, howner, ?_⟩
  dsimp only at h
  by_cases hauto : r.autocycle.getD false = true
  · rw [if_pos hauto] at h
    obtain ⟨closing, hclosing, h⟩ := bind_eq_ok.mp h
    obtain ⟨rfl, rfl⟩ := Prod.mk.inj (pure_eq_ok.mp h)
    exact .inr ⟨closing, hauto, ⟨orAbort_eq_ok.mp hclosing, rfl⟩, rfl⟩
  · rw [if_neg hauto] at h
    obtain ⟨rfl, rfl⟩ := Prod.mk.inj (pure_eq_ok.mp h)
    exact .inl ⟨eq_false_of_ne_true hauto, rfl, rfl⟩

theorem holdsOnly_iff {prizes : List Asset} {received : Token} :
    holdsOnly prizes received = true ↔
      prizes = [.cw721 received] ∨ prizes = [.sg721 received] := by
  unfold holdsOnly
  split
  · simp
  · simp
  · next hcw hsg =>
    constructor
    · intro h
      cases h
    · rintro (h | h)
      · exact absurd h (hcw received)
      · exact absurd h (hsg received)

/-- An accepted deposit enters a raffle whose only prize is the token that has arrived. -/
theorem deposit_eq_ok {s s' : Store} {env : Surroundings} {caller : Caller} {d : DepositRequest}
    {response : Response} (h : deposit s env caller d = .ok (s', response)) :
    ∃ config r sender owner id raffle, Creation s env.now config r owner id raffle s' ∧
      Wire.request.decodeBytes? d.payload = some (.create r) ∧
      d.sender.validate = .ok sender ∧ namedOwner r.owner sender = .ok owner ∧
      (r.prizes = [.cw721 ⟨caller.address, d.token⟩] ∨
        r.prizes = [.sg721 ⟨caller.address, d.token⟩]) ∧
      r.autocycle.getD false = false ∧ response.messages = [] := by
  unfold deposit at h
  obtain ⟨sender, hsender, h⟩ := bind_eq_ok.mp h
  obtain ⟨request, hrequest, h⟩ := bind_eq_ok.mp h
  rw [orRefuse_eq_ok] at hrequest
  cases request with
  | create r =>
      simp only [Store.getConfig, bind_eq_ok, pure_eq_ok, orRefuse_eq_ok, ensure_eq_ok,
        Bool.not_eq_true', Prod.mk.injEq] at h
      obtain ⟨config, hconfig, _, hlock, _, hholds, _, hprice, _, hoptions, _, _, _, hauto, owner,
        howner, ⟨s'', id, raffle⟩, henter, rfl, rfl⟩ := h
      have hprizes := holdsOnly_iff.mp hholds
      have hkind : r.prizes ≠ [] ∧ Asset.allDistinct r.prizes ∧
          ∀ a ∈ r.prizes, a.isEmptyCoin = false := by
        rcases hprizes with h | h <;> rw [h] <;> simp [Asset.allDistinct, Asset.isEmptyCoin]
      exact ⟨config, r, sender, owner, id, raffle,
        enterRaffle_eq_ok hconfig hlock hkind hprice hoptions henter, hrequest, hsender, howner,
        hprizes, hauto, rfl⟩
  | _ => exact absurd h refuse_ne_ok

end Tombola.Contract
