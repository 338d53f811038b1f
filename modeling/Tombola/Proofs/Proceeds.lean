import Tombola.Proofs.Repayment
import Tombola.Proofs.WellFormed

/-!
# How the ticket sales are split

The treasury's part of the sales is the exact product of the sales and the cut, rounded down, and
the owner of the raffle gets the rest. A cut below one can always be taken, and leaves something of
any sales.
-/

namespace Tombola

open Contract Outcome

namespace Decimal

/-- The number that a decimal fraction stands for. -/
def value (d : Decimal) : ℚ := d.units.val / scale

/-- The fraction of a total, rounded down. -/
def partOf (d : Decimal) (total : ℕ) : ℕ := ⌊(total : ℚ) * d.value⌋₊

variable {d d' : Decimal} {total total' : ℕ}

theorem partOf_eq (d : Decimal) (total : ℕ) : d.partOf total = total * d.units.val / scale := by
  have hproduct : (total : ℚ) * d.value = ((total * d.units.val : ℕ) : ℚ) / (scale : ℕ) := by
    rw [value, Nat.cast_mul, mul_div_assoc]
  rw [partOf, hproduct, Nat.floor_div_eq_div]

theorem value_nonneg (d : Decimal) : 0 ≤ d.value :=
  div_nonneg (Nat.cast_nonneg _) (Nat.cast_nonneg _)

theorem value_mono (h : d ≤ d') : d.value ≤ d'.value :=
  div_le_div_of_nonneg_right (Nat.cast_le.mpr h) (Nat.cast_nonneg _)

theorem value_lt_one (h : d < one) : d.value < 1 := by
  have hscale : (0 : ℚ) < scale := Nat.cast_pos.mpr (by decide)
  rw [value, div_lt_one hscale]
  exact Nat.cast_lt.mpr h

/-- The part grows with the total and with the fraction. -/
theorem partOf_mono (htotal : total ≤ total') (hd : d ≤ d') :
    d.partOf total ≤ d'.partOf total' := by
  apply Nat.floor_le_floor
  calc
    (total : ℚ) * d.value ≤ total' * d.value :=
      mul_le_mul_of_nonneg_right (Nat.cast_le.mpr htotal) d.value_nonneg
    _ ≤ total' * d'.value := mul_le_mul_of_nonneg_left (value_mono hd) (Nat.cast_nonneg _)

/-- A fraction below one leaves something of anything. -/
theorem partOf_lt (hd : d < one) (htotal : 0 < total) : d.partOf total < total := by
  apply (Nat.floor_lt (mul_nonneg (Nat.cast_nonneg _) d.value_nonneg)).mpr
  calc
    (total : ℚ) * d.value < total * 1 :=
      mul_lt_mul_of_pos_left (value_lt_one hd) (Nat.cast_pos.mpr htotal)
    _ = total := mul_one _

theorem partOf_le (hd : d < one) (total : ℕ) : d.partOf total ≤ total := by
  rcases Nat.eq_zero_or_pos total with rfl | htotal
  · simp [partOf]
  · exact Nat.le_of_lt (partOf_lt hd htotal)

end Decimal

namespace Config

/-- What goes to the treasury of the sales of tickets at a price. -/
def treasuryShare (config : Config) (price : Coin) (tickets : TicketCount) : ℕ :=
  config.cut.partOf (price.amount.val * tickets.toNat)

/-- What is left to the owner of the raffle. -/
def ownerShare (config : Config) (price : Coin) (tickets : TicketCount) : ℕ :=
  price.amount.val * tickets.toNat - config.treasuryShare price tickets

variable {config config' : Config} {price : Coin} {tickets tickets' : TicketCount}

/-- The two shares make up the sales. -/
theorem shares_add (h : config.cut < .one) (price : Coin) (tickets : TicketCount) :
    config.treasuryShare price tickets + config.ownerShare price tickets =
      price.amount.val * tickets.toNat :=
  Nat.add_sub_of_le (Decimal.partOf_le h _)

theorem treasuryShare_mono (htickets : tickets ≤ tickets') (hcut : config.cut ≤ config'.cut) :
    config.treasuryShare price tickets ≤ config'.treasuryShare price tickets' :=
  Decimal.partOf_mono (Nat.mul_le_mul_left _ (UInt32.le_iff_toNat_le.mp htickets)) hcut

/-- The owner gets something of whatever is sold for something. -/
theorem ownerShare_pos_iff (h : config.cut < .one) : 0 < config.ownerShare price tickets ↔
    price.amount.isZero = false ∧ tickets ≠ 0 := by
  have hamount : price.amount.isZero = false ↔ 0 < price.amount.val := by
    rw [← Bool.not_eq_true, Amount.isZero_iff, Nat.pos_iff_ne_zero]
  have htickets : tickets ≠ 0 ↔ 0 < tickets.toNat := by
    rw [Nat.pos_iff_ne_zero, ne_eq, ne_eq, ← UInt32.toNat_inj, UInt32.toNat_zero]
  rw [hamount, htickets, ← CanonicallyOrderedAdd.mul_pos, ownerShare, Nat.sub_pos_iff_lt]
  constructor
  · intro hlt
    exact Nat.zero_lt_of_lt hlt
  · intro hpos
    exact Decimal.partOf_lt h hpos

end Config

namespace Contract

variable {config : Config} {r : Raffle} {price : Coin} {total treasury rest : Amount}
  {cut : Decimal} {receiver account : Address} {c : Coin} {m : Message}

/-- The parts of a total are what the cut makes of it and what is left. -/
theorem split?_eq_some_iff : split? total cut = some (treasury, rest) ↔
    treasury.val = cut.partOf total.val ∧ total.val = treasury.val + rest.val := by
  simp only [split?, Option.bind_eq_bind, Option.bind_eq_some_iff, Amount.ofNat?_eq_some,
    Amount.sub?_eq_some, Decimal.partOf_eq, Option.pure_def, Option.some.injEq, Prod.mk.injEq]
  constructor
  · rintro ⟨_, htreasury, _, hsum, rfl, rfl⟩
    exact ⟨htreasury, hsum⟩
  · rintro ⟨htreasury, hsum⟩
    exact ⟨treasury, htreasury, rest, hsum, rfl, rfl⟩

/-- The message that pays a part out, if there is anything to pay. -/
def payment (receiver : Address) (c : Coin) : List Message :=
  if c.amount.isZero then [] else [.send receiver [c]]

theorem mem_payment (h : m ∈ payment receiver c) :
    m = .send receiver [c] ∧ c.amount.isZero = false := by
  unfold payment at h
  split at h
  · cases h
  · next hworth => exact ⟨List.mem_singleton.mp h, eq_false_of_ne_true hworth⟩

theorem total_payment_to :
    Message.total ((payment receiver c).filter (·.isSentTo account)) c.denom =
      if account = receiver then c.amount.val else 0 := by
  unfold payment
  split
  · next hz => simp [Amount.isZero_iff.mp hz]
  · by_cases haccount : account = receiver
    · simp [Message.isSentTo, Message.coins, Coin.worth, haccount]
    · simp [Message.isSentTo, haccount, Ne.symm haccount]

/-- Sales that are in range are paid out in two parts: the treasury's share and the owner's. -/
theorem exists_proceeds (hprice : r.price = .coin price) (hcut : config.cut < .one)
    (hrange : price.amount.val * r.sold.toNat < amountBound) : ∃ treasury rest : Amount,
      treasury.val = config.treasuryShare price r.sold ∧
      rest.val = config.ownerShare price r.sold ∧
      proceedsMessages config r = .ok
        (payment config.treasury ⟨price.denom, treasury⟩ ++
          payment r.owner ⟨price.denom, rest⟩) := by
  have hshares := config.shares_add hcut price r.sold
  let treasury : Amount := ⟨config.treasuryShare price r.sold, by omega⟩
  let rest : Amount := ⟨config.ownerShare price r.sold, by omega⟩
  have htotal : ticketCost r r.sold = .ok ⟨price.denom, ⟨_, hrange⟩⟩ :=
    ticketCost_eq_ok.mpr ⟨price, hprice, rfl, rfl⟩
  have hsplit : split? ⟨_, hrange⟩ config.cut = some (treasury, rest) :=
    split?_eq_some_iff.mpr ⟨rfl, hshares.symm⟩
  refine ⟨treasury, rest, rfl, rfl, ?_⟩
  rw [proceedsMessages, htotal, ok_bind, hsplit]
  rfl

end Contract

/-- The sales of tickets for coins, as long as they are in range and the cut is below one, are paid
out by sends of coins of the price's denomination, none of them empty: the treasury gets the exact
product of the sales and the cut, rounded down, and the owner of the raffle the rest, so nothing is
lost. The owner gets something whenever a ticket was sold for something. More tickets or a higher
cut never lower the treasury's share. In every store that can be reached the cut is below one, and
the price of every raffle is something, so its owner gets something whenever a ticket was sold. -/
theorem proceeds_split_exactly {config : Config} {r : Raffle} {price : Coin}
    (hprice : r.price = .coin price) (hcut : config.cut < .one)
    (hrange : price.amount.val * r.sold.toNat < amountBound) :
    (∃ messages, proceedsMessages config r = .ok messages ∧
      (∀ m ∈ messages, ∃ part : Coin, part.denom = price.denom ∧ part.amount.isZero = false ∧
        (m = .send config.treasury [part] ∨ m = .send r.owner [part])) ∧
      (∀ account, Message.total (messages.filter (·.isSentTo account)) price.denom =
        (if account = config.treasury then config.treasuryShare price r.sold else 0) +
          if account = r.owner then config.ownerShare price r.sold else 0) ∧
      Message.total messages price.denom = price.amount.val * r.sold.toNat) ∧
    config.treasuryShare price r.sold =
      ⌊((price.amount.val * r.sold.toNat : ℕ) : ℚ) * config.cut.value⌋₊ ∧
    config.treasuryShare price r.sold + config.ownerShare price r.sold =
      price.amount.val * r.sold.toNat ∧
    (0 < config.ownerShare price r.sold ↔ price.amount.isZero = false ∧ r.sold ≠ 0) ∧
    (∀ {config' : Config} {tickets}, r.sold ≤ tickets → config.cut ≤ config'.cut →
      config.treasuryShare price r.sold ≤ config'.treasuryShare price tickets) ∧
    ∀ {clock now s}, Reachable clock now s →
      (∀ config', s.config = some config' → config'.cut < .one) ∧
      ∀ id r', s.raffles.get? id = some r' → ∃ price', r'.price = .coin price' ∧
        ∀ config' : Config, config'.cut < .one → r'.sold ≠ 0 →
          0 < config'.ownerShare price' r'.sold := by
  refine ⟨?_, rfl, config.shares_add hcut price r.sold, Config.ownerShare_pos_iff hcut,
    Config.treasuryShare_mono, ?_⟩
  · obtain ⟨treasury, rest, htreasury, hrest, hproceeds⟩ := exists_proceeds hprice hcut hrange
    refine ⟨_, hproceeds, ?_, ?_, ?_⟩
    · intro m hm
      rcases List.mem_append.mp hm with hm | hm
      · obtain ⟨hsend, hworth⟩ := mem_payment hm
        exact ⟨⟨price.denom, treasury⟩, rfl, hworth, .inl hsend⟩
      · obtain ⟨hsend, hworth⟩ := mem_payment hm
        exact ⟨⟨price.denom, rest⟩, rfl, hworth, .inr hsend⟩
    · intro account
      rw [List.filter_append, Message.total_append, ← htreasury, ← hrest]
      exact congrArg₂ (· + ·) total_payment_to total_payment_to
    · rw [total_proceeds hproceeds, hprice, Asset.worth, Coin.worth, if_pos rfl]
  · intro clock now s hreach
    refine ⟨fun config' hconfig' => (hreach.valid hconfig').cut, ?_⟩
    intro id r' hr'
    obtain ⟨price', hprice', hworth⟩ := (hreach.checked hr').price
    refine ⟨price', hprice', ?_⟩
    intro config' hcut' hsold
    exact (Config.ownerShare_pos_iff hcut').mpr ⟨hworth, hsold⟩

namespace Sample

/-- A contract whose treasury gets a twentieth of all sales. -/
def taxing : Store :=
  match setup .empty ⟨"owner", []⟩
      { setting with cut := ⟨.ofWord 50000000000000000⟩, treasury := some "treasury" } with
  | .ok (s, _) => s
  | .error _ => .empty

/-- A raffle whose tickets cost eleven coins each. -/
def elevens : Turn := .execute (env 5) ⟨"owner", [coin 7 "uprize", coin 50 "unois"]⟩
  (.create { raffle with price := .coin (coin 11 "ustars") })

/-- Three tickets are sold for eleven coins each. -/
def elevensSale : Turn := .execute (env 6) ⟨"buyer", [coin 33 "ustars"]⟩
  (.buy ⟨0, 3, .coin (coin 33 "ustars")⟩)

def elevensSold : Store := elevensSale.after (elevens.after taxing)

end Sample

/-- A twentieth of 33 coins is 1.65 of them: the treasury gets one and the owner 32. -/
theorem sales_of_sample_split : ∃ config r messages, Sample.elevensSold.config = some config ∧
    Sample.elevensSold.raffles.get? 0 = some r ∧ r.price = .coin (Sample.coin 11 "ustars") ∧
    r.sold = 3 ∧ config.cut < .one ∧ proceedsMessages config r = .ok messages ∧
    Message.total (messages.filter (·.isSentTo "treasury")) "ustars" = 1 ∧
    Message.total (messages.filter (·.isSentTo "owner")) "ustars" = 32 := by
  obtain ⟨config, r, hconfig, hr, hprice, hsold, hunits, htreasury, howner⟩ :
      ∃ config r, Sample.elevensSold.config = some config ∧
        Sample.elevensSold.raffles.get? 0 = some r ∧
        r.price = .coin (Sample.coin 11 "ustars") ∧ r.sold = 3 ∧
        config.cut = ⟨.ofWord 50000000000000000⟩ ∧ config.treasury = "treasury" ∧
        r.owner = "owner" := ⟨_, _, rfl, rfl, rfl, rfl, rfl, rfl, rfl⟩
  have hcut : config.cut < .one := by
    rw [hunits]
    decide
  have hrange : (Sample.coin 11 "ustars").amount.val * r.sold.toNat < amountBound := by
    rw [hsold]
    decide
  obtain ⟨⟨messages, hproceeds, _, hsent, _⟩, _⟩ := proceeds_split_exactly hprice hcut hrange
  have hshare : config.treasuryShare (Sample.coin 11 "ustars") r.sold = 1 := by
    rw [Config.treasuryShare, Decimal.partOf_eq, hsold, hunits]
    decide
  have hrest : config.ownerShare (Sample.coin 11 "ustars") r.sold = 32 := by
    rw [Config.ownerShare, hshare, hsold]
    decide
  refine ⟨config, r, messages, hconfig, hr, hprice, hsold, hcut, hproceeds, ?_, ?_⟩
  · refine (hsent "treasury").trans ?_
    rw [htreasury, howner, hshare, if_pos rfl, if_neg (by decide)]
  · refine (hsent "owner").trans ?_
    rw [htreasury, howner, hrest, if_neg (by decide), if_pos rfl]

end Tombola
