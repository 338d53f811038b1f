import Tombola.Proofs.Entries

/-!
# The payment of a creation

A creation takes the prizes, the oracle's fee and the creation fee out of the attached funds one
after the other, and the creation fee is the first accepted coin that the rest can pay. This is not
too greedy: accepted coins are of different denominations, so a rest that is exactly one accepted
coin pays no other. A creation that nothing else stands against goes through exactly when the funds
are the prizes, the oracle's fee and one accepted coin.
-/

namespace Tombola

open Contract Outcome

/-- Creating a raffle costs nothing: no coin is accepted for it, or a zero coin is. -/
def Config.FreeCreation (config : Config) : Prop :=
  config.creationFees = [] ∨ ∃ c ∈ config.creationFees, c.amount.isZero = true

/-- What a creation can be paid for with: nothing when it is free, and otherwise any one of the
accepted coins. -/
def Config.Accepts (config : Config) : Option Coin → Prop
  | none => config.FreeCreation
  | some fee => ¬config.FreeCreation ∧ fee ∈ config.creationFees

/-- The funds hold no denomination twice and come to the prizes, the oracle's share and an accepted
creation fee. -/
structure PaidExactly (config : Config) (funds : List Coin) (r : CreateRequest)
    (fee : Option Coin) : Prop where
  distinct : Coin.DistinctDenoms funds
  accepted : config.Accepts fee
  sums : ∀ d, Coin.total funds d =
    Asset.total r.prizes d + oracleShare config r d + Coin.total fee.toList d

/-- The sender owns every token among the prizes. -/
def OwnsTokens (env : Surroundings) (sender : Address) (prizes : List Asset) : Prop :=
  ∀ prize ∈ prizes, ∀ t, prize.token? = some t → env.ownerOf t.collection t.id = .ok sender

/-- Everything but the payment that is asked of the creation of a raffle. -/
structure Creatable (config : Config) (env : Surroundings) (sender : Address)
    (r : CreateRequest) : Prop where
  unlocked : config.locks.locked = false
  prizes : checkPrizes r.prizes = .ok ()
  priced : checkPrice r.price = .ok ()
  checked : r.options.check config = .ok ()
  owned : OwnsTokens env sender r.prizes
  named : ∀ owner, r.owner = some owner → owner.Accepted
  numbered : ∀ last, config.lastRaffle = some last → last.toNat + 1 < UInt64.size
  closes : r.autocycle.getD false = true →
    let options := RaffleOptions.ofRequest env.now r.prizes.length r.options config
    (options.start.addSeconds? options.duration).isSome

/-- Accepted coins of one denomination are the same. -/
theorem Coin.DistinctDenoms.eq_of_denom {cs : List Coin} (h : Coin.DistinctDenoms cs) {a b : Coin}
    (ha : a ∈ cs) (hb : b ∈ cs) (hdenom : a.denom = b.denom) (ha' : a.amount.isZero ≠ true)
    (hb' : b.amount.isZero ≠ true) : a = b := by
  by_contra hne
  have : Std.Symm fun a b : Coin =>
      a.denom = b.denom → a.amount.isZero = true ∨ b.amount.isZero = true :=
    ⟨fun _ _ hab hd => (hab hd.symm).symm⟩
  rcases List.Pairwise.forall h ha hb hne hdenom with hz | hz
  · exact ha' hz
  · exact hb' hz

/-! ## Purses -/

namespace Purse

variable {p p' : Purse} {c : Coin} {cs : List Coin}

/-- Every amount that a purse keeps is positive. -/
def Positive (p : Purse) : Prop :=
  ∀ d a, p.coins.get? d = some a → a.isZero = false

theorem Positive.put (h : p.Positive) (d : Denom) (a : Amount) : (p.put d a).Positive := by
  intro d' a' hget
  unfold Purse.put at hget
  split at hget
  · rw [Table.get?_erase] at hget
    split at hget
    · cases hget
    · exact h d' a' hget
  · next hpos =>
    rw [Table.get?_insert] at hget
    split at hget
    · obtain rfl := Option.some.inj hget
      exact eq_false_of_ne_true hpos
    · exact h d' a' hget

theorem Positive.sub? (h : p.Positive) (hsub : p.sub? c = some p') : p'.Positive := by
  obtain ⟨a, _, rfl⟩ := Option.map_eq_some_iff.mp hsub
  exact h.put c.denom a

theorem Positive.foldlM (h : p.Positive) (hall : cs.foldlM addNew? p = some p') : p'.Positive := by
  induction cs generalizing p with
  | nil =>
      obtain rfl : p = p' := by simpa using hall
      exact h
  | cons c cs ih =>
      obtain ⟨q, hq, hrest⟩ := Option.bind_eq_some_iff.mp (by simpa using hall)
      apply ih _ hrest
      unfold addNew? at hq
      split at hq
      · exact Option.some.inj hq ▸ h
      · split at hq
        · cases hq
        · exact Option.some.inj hq ▸ h.put c.denom c.amount

theorem positive_ofCoins? (h : ofCoins? cs = some p) : p.Positive := by
  have hempty : empty.Positive := by
    intro d a hget
    rw [empty, Table.get?_empty] at hget
    cases hget
  exact hempty.foldlM h

/-- A purse that keeps positive amounts is empty when it holds nothing of any denomination. -/
theorem Positive.isEmpty (h : p.Positive) (hnone : ∀ d, (p.amountOf d).val = 0) :
    p.isEmpty = true := by
  rw [Purse.isEmpty, Table.isEmpty, List.isEmpty_iff, List.eq_nil_iff_forall_not_mem]
  rintro ⟨d, a⟩ hmem
  have hget := (Table.mem_entries_iff _ _ _).mp hmem
  have hzero := hnone d
  rw [amountOf, hget, Option.getD_some] at hzero
  have hpos := h d a hget
  rw [Amount.isZero_iff.mpr hzero] at hpos
  cases hpos

theorem exists_sub? (h : c.amount.val ≤ (p.amountOf c.denom).val) : ∃ p', p.sub? c = some p' := by
  have hle : c.amount ≤ p.amountOf c.denom := h
  rw [Purse.sub?, Amount.sub?, if_pos hle]
  exact ⟨_, rfl⟩

end Purse

namespace Contract

variable {s s' : Store} {env : Surroundings} {caller : Caller} {sender : Address}
  {config : Config} {r : CreateRequest} {prizes : List Asset} {purse left : Purse}
  {messages : List Message} {fee : Option Coin}

/-! ## Taking what is due -/

/-- A purse pays a coin if it holds what the coin is worth. -/
theorem exists_take {c : Coin} (h : ∀ d, c.worth d ≤ (purse.amountOf d).val) :
    ∃ left, Payment.take purse c = .ok left := by
  have hheld := h c.denom
  rw [Coin.worth, if_pos rfl] at hheld
  obtain ⟨left, hleft⟩ := Purse.exists_sub? hheld
  exact ⟨left, Payment.take_eq_ok.mpr hleft⟩

theorem positive_take {c : Coin} (hpurse : purse.Positive)
    (h : Payment.take purse c = .ok left) : left.Positive :=
  hpurse.sub? (Payment.take_eq_ok.mp h)

/-- What a purse holds beside a coin is left when it pays the coin. -/
theorem exists_take_of_sum {c : Coin} {rest : Denom → Nat} (hpurse : purse.Positive)
    (h : ∀ d, (purse.amountOf d).val = c.worth d + rest d) :
    ∃ left, Payment.take purse c = .ok left ∧ left.Positive ∧
      ∀ d, (left.amountOf d).val = rest d := by
  obtain ⟨left, htake⟩ := exists_take fun d => (h d).symm ▸ Nat.le_add_right _ _
  refine ⟨left, htake, positive_take hpurse htake, fun d => ?_⟩
  have hsub := Purse.amountOf_sub? (Payment.take_eq_ok.mp htake) d
  have hall := h d
  omega

/-- Prizes can be taken when the sender owns the tokens and the purse holds the coins. -/
theorem exists_takePrizes (howned : OwnsTokens env sender prizes)
    (hheld : ∀ d, Asset.total prizes d ≤ (purse.amountOf d).val) :
    ∃ messages left, takePrizes env sender prizes purse = .ok (messages, left) := by
  induction prizes generalizing purse with
  | nil => exact ⟨[], purse, rfl⟩
  | cons asset rest ih =>
      have hrest : OwnsTokens env sender rest := fun prize hprize =>
        howned prize (List.mem_cons_of_mem _ hprize)
      simp only [Asset.total_cons] at hheld
      have htoken (t : Token) (ht : asset.token? = some t) :
          ∃ messages left, takePrizes env sender (asset :: rest) purse = .ok (messages, left) := by
        obtain ⟨later, left, htaken⟩ := ih hrest fun d => le_trans (Nat.le_add_left _ _) (hheld d)
        have howner := howned asset List.mem_cons_self t ht
        exact ⟨_, _, takePrizes_cons_of_owned ht howner htaken⟩
      cases asset with
      | coin c =>
          obtain ⟨left, htake⟩ := exists_take fun d =>
            le_trans (Nat.le_add_right _ _) (hheld d)
          obtain ⟨messages, left', htaken⟩ : ∃ messages left',
              takePrizes env sender rest left = .ok (messages, left') := by
            apply ih hrest
            intro d
            have hsub := Purse.amountOf_sub? (Payment.take_eq_ok.mp htake) d
            have hall := hheld d
            simp only [Asset.worth] at hall
            omega
          rw [takePrizes, htake, ok_bind]
          exact ⟨messages, left', htaken⟩
      | cw721 t => exact htoken t rfl
      | sg721 t => exact htoken t rfl

theorem positive_takePrizes (hpurse : purse.Positive)
    (h : takePrizes env sender prizes purse = .ok (messages, left)) : left.Positive := by
  induction prizes generalizing purse messages with
  | nil =>
      obtain ⟨_, rfl⟩ := Prod.mk.inj (pure_eq_ok.mp h)
      exact hpurse
  | cons asset rest ih =>
      cases asset with
      | coin c =>
          obtain ⟨purse', htake, h⟩ := bind_eq_ok.mp h
          exact ih (positive_take hpurse htake) h
      | cw721 t =>
          obtain ⟨_, ms, hrest, _⟩ := takePrizes_token rfl h
          exact ih hpurse hrest
      | sg721 t =>
          obtain ⟨_, ms, hrest, _⟩ := takePrizes_token rfl h
          exact ih hpurse hrest

/-! ## The creation fee -/

theorem freeCreation_iff :
    (config.creationFees.isEmpty || config.creationFees.any (·.amount.isZero)) = true ↔
      config.FreeCreation := by
  rw [Bool.or_eq_true, List.isEmpty_iff, List.any_eq_true, Config.FreeCreation]

/-- The fee that is picked is an accepted one. -/
theorem accepts_of_creationFee (h : Payment.creationFee purse config.creationFees = .ok fee) :
    config.Accepts fee := by
  have hfee := orRefuse_eq_ok.mp h
  unfold Payment.fee? at hfee
  split at hfee
  · next hfree =>
    obtain rfl := Option.some.inj hfee
    exact freeCreation_iff.mp hfree
  · next hpriced =>
    obtain ⟨c, hfound, rfl⟩ := Option.map_eq_some_iff.mp hfee
    exact ⟨fun hfree => hpriced (freeCreation_iff.mpr hfree), List.mem_of_find?_eq_some hfound⟩

/-- When a purse holds exactly an accepted fee, that is the fee which is picked: the purse holds
nothing of the denomination of another accepted coin. -/
theorem creationFee_of_exact (hdistinct : Coin.DistinctDenoms config.creationFees)
    (haccepts : config.Accepts fee)
    (hexact : ∀ d, (purse.amountOf d).val = Coin.total fee.toList d) :
    Payment.creationFee purse config.creationFees = .ok fee := by
  apply orRefuse_eq_ok.mpr
  cases fee with
  | none => rw [Payment.fee?, if_pos (freeCreation_iff.mpr haccepts)]
  | some c =>
      obtain ⟨hpriced, hmem⟩ := haccepts
      have hworth (c' : Coin) (hc' : c' ∈ config.creationFees) : c'.amount.isZero ≠ true :=
        fun hz => hpriced (.inr ⟨c', hc', hz⟩)
      have hheld (c' : Coin) : c'.amount ≤ purse.amountOf c'.denom ↔
          c'.amount.val ≤ c.worth c'.denom := by
        have hd := hexact c'.denom
        rw [Option.toList_some, Coin.total_cons, Coin.total_nil, Nat.add_zero] at hd
        rw [← hd]
        rfl
      have hpays : decide (c.amount ≤ purse.amountOf c.denom) = true := by
        rw [decide_eq_true_iff, hheld, Coin.worth, if_pos rfl]
      obtain ⟨c', hfound⟩ : ∃ c', config.creationFees.find?
          (fun c => decide (c.amount ≤ purse.amountOf c.denom)) = some c' :=
        Option.isSome_iff_exists.mp (List.find?_isSome.mpr ⟨c, hmem, hpays⟩)
      have hmem' := List.mem_of_find?_eq_some hfound
      have hholds := List.find?_some hfound
      have hpaid := (hheld c').mp (of_decide_eq_true hholds)
      obtain rfl : c' = c := by
        have hdenom : c'.denom = c.denom := by
          by_contra hother
          rw [Coin.worth, if_neg (Ne.symm hother)] at hpaid
          exact hworth c' hmem' (Amount.isZero_iff.mpr (Nat.le_zero.mp hpaid))
        exact hdistinct.eq_of_denom hmem' hmem hdenom (hworth c' hmem') (hworth c hmem)
      rw [Payment.fee?, if_neg (mt freeCreation_iff.mp hpriced), hfound]
      rfl

/-! ## All that is due -/

/-- The messages that take the tokens among the prizes and pay the creation fee. -/
def dueMessages (env : Surroundings) (config : Config) (prizes : List Asset) (fee : Option Coin) :
    List Message :=
  (prizes.filter fun a => a.token?.isSome).map (transfer env.self) ++
    fee.toList.map fun c => .send config.treasury [c]

/-- What goes through has taken exactly what is due. -/
theorem exact_of_collect (h : collect env config caller r purse = .ok messages) :
    OwnsTokens env caller.address r.prizes ∧ ∃ fee, config.Accepts fee ∧
      messages = dueMessages env config r.prizes fee ∧ ∀ d, (purse.amountOf d).val =
        Asset.total r.prizes d + oracleShare config r d + Coin.total fee.toList d := by
  have htotal := total_collect h
  unfold collect at h
  obtain ⟨⟨taken, left⟩, htaken, h⟩ := bind_eq_ok.mp h
  have hnone (d : Denom) := (total_takePrizes htaken d).1
  dsimp only at h
  obtain ⟨_, _, h⟩ := ite_bind_eq_ok.mp h
  obtain ⟨fee, hfee, h⟩ := bind_eq_ok.mp h
  have hmessages : messages = taken ++ fee.toList.map fun c => .send config.treasury [c] := by
    cases fee with
    | none =>
        obtain ⟨_, hpair, h⟩ := bind_eq_ok.mp h
        obtain rfl := pure_eq_ok.mp hpair
        obtain ⟨_, _, h⟩ := bind_eq_ok.mp h
        simpa using (pure_eq_ok.mp h).symm
    | some c =>
        obtain ⟨_, _, h⟩ := bind_eq_ok.mp h
        obtain ⟨_, hpair, h⟩ := bind_eq_ok.mp h
        obtain rfl := pure_eq_ok.mp hpair
        obtain ⟨_, _, h⟩ := bind_eq_ok.mp h
        exact (pure_eq_ok.mp h).symm
  refine ⟨fun _ hprize _ ht => owner_of_takePrizes htaken hprize ht, fee,
    accepts_of_creationFee hfee, by rw [hmessages, takePrizes_messages htaken, dueMessages], ?_⟩
  intro d
  rw [htotal d, hmessages, Message.total_append, hnone d]
  cases fee <;> simp [Message.coins]

/-- A purse that holds exactly what is due is taken to the last coin. -/
theorem collect_of_exact (hdistinct : Coin.DistinctDenoms config.creationFees)
    (hpositive : purse.Positive) (howned : OwnsTokens env caller.address r.prizes)
    (haccepts : config.Accepts fee) (hexact : ∀ d, (purse.amountOf d).val =
      Asset.total r.prizes d + oracleShare config r d + Coin.total fee.toList d) :
    collect env config caller r purse = .ok (dueMessages env config r.prizes fee) := by
  have hheld (d : Denom) : Asset.total r.prizes d ≤ (purse.amountOf d).val := by
    rw [hexact d]
    omega
  obtain ⟨taken, p₁, htaken⟩ := exists_takePrizes howned hheld
  have h₁ (d : Denom) : (p₁.amountOf d).val =
      oracleShare config r d + Coin.total fee.toList d := by
    have htotal := (total_takePrizes htaken d).2
    have hall := hexact d
    omega
  obtain ⟨p₂, horacle, hpositive₂, h₂⟩ : ∃ p₂,
      (if r.autocycle.getD false then Payment.take p₁ config.oracleFee else pure p₁) = .ok p₂ ∧
      p₂.Positive ∧ ∀ d, (p₂.amountOf d).val = Coin.total fee.toList d := by
    have hpositive₁ := positive_takePrizes hpositive htaken
    simp only [oracleShare] at h₁
    cases hauto : r.autocycle.getD false with
    | false =>
        simp only [hauto, Bool.false_eq_true, if_false, Nat.zero_add] at h₁ ⊢
        exact ⟨p₁, rfl, hpositive₁, h₁⟩
    | true =>
        simp only [hauto, if_true] at h₁ ⊢
        exact exists_take_of_sum hpositive₁ h₁
  have hfee := creationFee_of_exact hdistinct haccepts h₂
  have hmessages := takePrizes_messages htaken
  unfold collect
  rw [htaken, ok_bind]
  dsimp only
  apply ite_bind_eq_ok.mpr
  refine ⟨p₂, horacle, ?_⟩
  rw [hfee, ok_bind]
  cases fee with
  | none =>
      have hempty := hpositive₂.isEmpty h₂
      simp [hempty, hmessages, dueMessages, ensure_true]
  | some c =>
      have hrest (d : Denom) : (p₂.amountOf d).val = c.worth d + 0 := h₂ d
      obtain ⟨p₃, htake, hpositive₃, h₃⟩ := exists_take_of_sum hpositive₂ hrest
      have hempty := hpositive₃.isEmpty h₃
      dsimp only
      rw [htake, ok_bind]
      simp [hempty, hmessages, dueMessages, ensure_true]

/-! ## Entering the raffle -/

theorem createChecks_of_creatable (hconfig : s.config = some config)
    (h : Creatable config env caller.address r)
    (hpurse : Purse.ofCoins? caller.funds = some purse) :
    createChecks s caller r = .ok (config, purse) := by
  have hlock : Outcome.ensure (!config.locks.locked) .locked = .ok () := by
    rw [h.unlocked]
    rfl
  rw [createChecks, Store.getConfig_of hconfig, ok_bind, hlock, ok_bind, h.prizes, ok_bind,
    h.priced, ok_bind, h.checked, ok_bind, Payment.purseOf, hpurse]
  rfl

/-- The raffles stored are those up to the last, so the number after the last is free. -/
theorem exists_enterRaffle (hs : s.Numbered) (hconfig : s.config = some config)
    (hnumber : ∀ last, config.lastRaffle = some last → last.toNat + 1 < UInt64.size)
    (now : Timestamp) (owner : Address) (price : Asset) (options : OptionsRequest) :
    ∃ entered, enterRaffle s now config owner prizes price options = .ok entered := by
  have hfresh {id : RaffleId} (hid : ∀ last, config.lastRaffle = some last → ¬id ≤ last) :
      (s.raffles.get? id).isNone = true := by
    rw [hs.get?_eq_none fun last hlast => hid last (Store.last?_of hconfig ▸ hlast)]
    rfl
  unfold enterRaffle
  rw [Store.getConfig_of hconfig, ok_bind]
  cases hlast : config.lastRaffle with
  | none =>
      have hnew : (s.raffles.get? 0).isNone = true := hfresh (by simp [hlast])
      exact ⟨_, bind_eq_ok.mpr ⟨_, rfl, bind_eq_ok.mpr ⟨_, rfl,
        bind_eq_ok.mpr ⟨(), ensure_eq_ok.mpr hnew, rfl⟩⟩⟩⟩
  | some last =>
      have hlt := hnumber last hlast
      have hnew : (s.raffles.get? (last + 1)).isNone = true := by
        apply hfresh
        intro last' hlast'
        obtain rfl := Option.some.inj (hlast.symm.trans hlast')
        rw [UInt64.le_iff_toNat_le, UInt64.toNat_add, UInt64.toNat_one, Nat.mod_eq_of_lt hlt]
        omega
      simp only [hlt, if_true]
      exact ⟨_, bind_eq_ok.mpr ⟨_, rfl, bind_eq_ok.mpr ⟨_, rfl,
        bind_eq_ok.mpr ⟨(), ensure_eq_ok.mpr hnew, rfl⟩⟩⟩⟩

/-- A new raffle is within the numbers, and its owner has been checked. -/
theorem creatable_of_create {effect : Effect} (hconfig : s.config = some config)
    (h : create s env caller r = .ok effect) :
    Creatable config env caller.address r := by
  obtain ⟨s', response⟩ := effect
  obtain ⟨config', purse, messages, owner, id, raffle, entered, hnew, _, hmessages, howner,
    hrest⟩ := create_eq_ok h
  obtain rfl := Option.some.inj (hconfig.symm.trans hnew.configured)
  refine ⟨hnew.unlocked, checkPrizes_eq_ok.mpr hnew.prizes, hnew.priced, hnew.checked,
    (exact_of_collect hmessages).1, ?_, ?_, ?_⟩
  · intro owner' howner'
    simp only [namedOwner, howner'] at howner
    exact (validate_eq_ok.mp howner).1
  · intro last hlast
    have hnumber := hnew.number
    simp only [hlast] at hnumber
    rw [← hnumber]
    exact id.toNat_lt
  · intro hauto
    rcases hrest with ⟨hfalse, _⟩ | ⟨closing, _, hcycle, _⟩
    · rw [hauto] at hfalse
      cases hfalse
    · have hcloses := hcycle.closes
      rw [Raffle.closing?, hnew.entered] at hcloses
      exact Option.isSome_iff_exists.mpr ⟨closing, hcloses⟩

/-- A creation that is paid exactly and that nothing else stands against goes through. -/
theorem exists_create (hs : s.Numbered) (hconfig : s.config = some config)
    (hdistinct : Coin.DistinctDenoms config.creationFees)
    (hallowed : Creatable config env caller.address r)
    (hpaid : PaidExactly config caller.funds r fee) :
    ∃ effect, create s env caller r = .ok effect := by
  obtain ⟨purse, hpurse⟩ :=
    Option.isSome_iff_exists.mp (Purse.ofCoins?_isSome_iff.mpr hpaid.distinct)
  have hheld := fun d => (Purse.amountOf_ofCoins? hpurse d).trans (hpaid.sums d)
  have hcollect := collect_of_exact hdistinct (Purse.positive_ofCoins? hpurse) hallowed.owned
    hpaid.accepted hheld
  obtain ⟨owner, howner⟩ : ∃ owner, namedOwner r.owner caller.address = .ok owner := by
    cases hnamed : r.owner with
    | none => exact ⟨_, rfl⟩
    | some owner => exact ⟨owner, validate_eq_ok.mpr ⟨hallowed.named owner hnamed, rfl⟩⟩
  obtain ⟨⟨entered, id, raffle⟩, henter⟩ :=
    exists_enterRaffle hs hconfig hallowed.numbered env.now owner r.price r.options
  have hnew := enterRaffle_eq_ok hconfig hallowed.unlocked (checkPrizes_eq_ok.mp hallowed.prizes)
    hallowed.priced hallowed.checked henter
  rw [create, createChecks_of_creatable hconfig hallowed hpurse, ok_bind]
  dsimp only
  rw [hcollect, ok_bind, howner, ok_bind, henter, ok_bind]
  dsimp only
  split
  · next hauto =>
    obtain ⟨closing, hclosing⟩ := Option.isSome_iff_exists.mp (hallowed.closes hauto)
    have hcloses : raffle.closing? = some closing := by
      rw [Raffle.closing?, hnew.entered]
      exact hclosing
    rw [orAbort_eq_ok.mpr hcloses, ok_bind]
    exact ⟨_, rfl⟩
  · exact ⟨_, rfl⟩

end Contract

/-- A creation goes through exactly when everything but the payment is in order, and the attached
funds hold no denomination twice and come to the prizes, the oracle's fee if it is due, and one
accepted creation fee. Then the tokens are taken, exactly that fee goes to the treasury, and exactly
the oracle's fee goes with the first request for randomness. -/
theorem created_iff_paid_exactly {clock : Clock} {now : Timestamp} {s : Store}
    (h : Reachable clock now s) {config : Config} (hconfig : s.config = some config)
    (env : Surroundings) (caller : Caller) (request : CreateRequest) :
    ((∃ effect, execute s env caller (.create request) = .ok effect) ↔
      Creatable config env caller.address request ∧
      ∃ fee, PaidExactly config caller.funds request fee) ∧
    ∀ fee s' response, PaidExactly config caller.funds request fee →
      execute s env caller (.create request) = .ok (s', response) →
      ∃ asked, response.messages = (request.prizes.filter fun a => a.token?.isSome).map
          (transfer env.self) ++ fee.toList.map (fun c => .send config.treasury [c]) ++ asked ∧
        if request.autocycle.getD false then
          ∃ call, asked = [.call config.oracle call (oracleFunds config.oracleFee)]
        else asked = [] := by
  have hdistinct := (h.valid hconfig).creationFees
  refine ⟨⟨?_, ?_⟩, ?_⟩
  · rintro ⟨⟨s', response⟩, hcreate⟩
    refine ⟨creatable_of_create hconfig hcreate, ?_⟩
    obtain ⟨config', purse, messages, _, _, _, _, hnew, hpurse, hmessages, _⟩ :=
      create_eq_ok hcreate
    obtain rfl := Option.some.inj (hconfig.symm.trans hnew.configured)
    obtain ⟨_, fee, haccepts, _, hexact⟩ := exact_of_collect hmessages
    exact ⟨fee, Purse.ofCoins?_isSome_iff.mp (Option.isSome_iff_exists.mpr ⟨purse, hpurse⟩),
      haccepts, fun d => (Purse.amountOf_ofCoins? hpurse d).symm.trans (hexact d)⟩
  · rintro ⟨hallowed, fee, hpaid⟩
    exact exists_create h.numbered hconfig hdistinct hallowed hpaid
  · intro fee s' response hpaid hcreate
    obtain ⟨config', purse, messages, _, id, _, entered, hnew, hpurse, hmessages, _, hrest⟩ :=
      create_eq_ok hcreate
    obtain rfl := Option.some.inj (hconfig.symm.trans hnew.configured)
    have hheld := fun d => (Purse.amountOf_ofCoins? hpurse d).trans (hpaid.sums d)
    have howned := (exact_of_collect hmessages).1
    have hcollect :=
      collect_of_exact hdistinct (Purse.positive_ofCoins? hpurse) howned hpaid.accepted hheld
    obtain rfl := Except.ok.inj (hcollect.symm.trans hmessages)
    rcases hrest with ⟨hauto, _, hall⟩ | ⟨closing, hauto, _, hall⟩
    · refine ⟨[], by rw [hall, dueMessages, List.append_nil], ?_⟩
      rw [hauto, if_neg Bool.false_ne_true]
    · refine ⟨_, hall, ?_⟩
      rw [hauto, if_pos rfl]
      exact ⟨_, rfl⟩

namespace Sample

/-- A contract in which a creation costs one of two coins. -/
def charging : Store :=
  match setup .empty ⟨"owner", []⟩
      { setting with creationFees := some [coin 100 "ustars", coin 10 "uatom"] } with
  | .ok (s, _) => s
  | .error _ => .empty

/-- The prize is of the denomination of the first coin that a creation can cost. -/
def starsRaffle : CreateRequest := { raffle with prizes := [.coin (coin 100 "ustars")] }

/-- So many coins of the prize's denomination, the oracle's fee, and the other coin that a creation
can cost. -/
def starsFunds (stars : UInt64) : List Coin :=
  [coin stars "ustars", coin 50 "unois", coin 10 "uatom"]

theorem charging_reachable : Reachable .forward ⟨5⟩ charging :=
  ⟨⟨"owner", []⟩, { setting with creationFees := some [coin 100 "ustars", coin 10 "uatom"] },
    charging, _, ⟨5⟩, _, rfl, .start⟩

end Sample

/-- The hundred stars are the prize, so the creation is paid with the other coin. With a hundred
stars more there is something left over, and the creation is refused. -/
theorem creation_of_sample_paid : (∃ s' response call,
    execute Sample.charging (Sample.env 5) ⟨"owner", Sample.starsFunds 100⟩
      (.create Sample.starsRaffle) = .ok (s', response) ∧
    response.messages = [.send "owner" [Sample.coin 10 "uatom"],
      .call "nois" call [Sample.coin 50 "unois"]]) ∧
    ∀ effect, execute Sample.charging (Sample.env 5) ⟨"owner", Sample.starsFunds 200⟩
      (.create Sample.starsRaffle) ≠ .ok effect := by
  obtain ⟨config, hconfig, hfees, hfee, htreasury, horacle, hallowed⟩ : ∃ config,
      Sample.charging.config = some config ∧
      config.creationFees = [Sample.coin 100 "ustars", Sample.coin 10 "uatom"] ∧
      config.oracleFee = Sample.coin 50 "unois" ∧ config.treasury = "owner" ∧
      config.oracle = "nois" ∧
      Creatable config (Sample.env 5) "owner" Sample.starsRaffle := by
    refine ⟨_, rfl, rfl, rfl, rfl, rfl, rfl, rfl, rfl, rfl, ?_, nofun, nofun, fun _ => by decide⟩
    intro prize hprize t ht
    obtain rfl := List.mem_singleton.mp hprize
    cases ht
  have hpriced : ¬config.FreeCreation := by
    rw [Config.FreeCreation, hfees]
    decide
  have hshare (d : Denom) : oracleShare config Sample.starsRaffle d =
      (Sample.coin 50 "unois").worth d := by
    rw [← hfee]
    rfl
  constructor
  · have hpaid : PaidExactly config (Sample.starsFunds 100) Sample.starsRaffle
        (some (Sample.coin 10 "uatom")) := by
      refine ⟨by simp [Coin.DistinctDenoms, Sample.starsFunds, Sample.coin],
        ⟨hpriced, by rw [hfees]; decide⟩, fun d => ?_⟩
      rw [hshare d]
      exact (Nat.add_assoc _ _ _).symm
    obtain ⟨hsucceeds, hsent⟩ := created_iff_paid_exactly Sample.charging_reachable hconfig
      (Sample.env 5) ⟨"owner", Sample.starsFunds 100⟩ Sample.starsRaffle
    obtain ⟨⟨s', response⟩, hcreate⟩ := hsucceeds.mpr ⟨hallowed, _, hpaid⟩
    obtain ⟨_, hmessages, call, rfl⟩ := hsent _ s' response hpaid hcreate
    rw [hfee, htreasury, horacle] at hmessages
    exact ⟨s', response, call, hcreate, hmessages⟩
  · intro effect hcreate
    obtain ⟨hsucceeds, _⟩ := created_iff_paid_exactly Sample.charging_reachable hconfig
      (Sample.env 5) ⟨"owner", Sample.starsFunds 200⟩ Sample.starsRaffle
    obtain ⟨_, fee, hpaid⟩ := hsucceeds.mp ⟨effect, hcreate⟩
    have hstars := hpaid.sums "ustars"
    have hatoms := hpaid.sums "uatom"
    rw [hshare] at hstars hatoms
    cases fee with
    | none => exact hpriced hpaid.accepted
    | some c =>
        have hmem := hpaid.accepted.2
        rw [hfees] at hmem
        rcases List.mem_pair.mp hmem with rfl | rfl
        · exact absurd hatoms (by decide)
        · exact absurd hstars (by decide)

end Tombola
