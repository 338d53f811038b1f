import Mathlib
import Tombola.Message
import Tombola.Payment
import Tombola.Proofs.Outcome

/-!
# What coins are worth in a denomination

Coins, lists of coins, purses, prizes and messages are all measured by one number for each
denomination, without any bound. A purse measures what the coins it was made of do, and taking a
coin out of a purse lowers its measure by that coin.
-/

namespace Tombola

theorem Amount.isZero_iff {a : Amount} : a.isZero = true ↔ a.val = 0 := by
  simp [isZero]

theorem Amount.ofNat?_eq_some {n : Nat} {a : Amount} : ofNat? n = some a ↔ a.val = n := by
  unfold ofNat?
  split
  · constructor
    · rintro ⟨rfl⟩
      rfl
    · rintro rfl
      rfl
  · next h =>
    constructor
    · intro h'
      cases h'
    · rintro rfl
      exact absurd a.lt h

theorem Amount.sub?_eq_some {a b c : Amount} : a.sub? b = some c ↔ a.val = b.val + c.val := by
  have hle : b ≤ a ↔ b.val ≤ a.val := Iff.rfl
  unfold sub?
  split
  · next h =>
    rw [hle] at h
    obtain ⟨n, hn⟩ := c
    simp only [Option.some.injEq, Amount.mk.injEq]
    omega
  · next h =>
    rw [hle] at h
    simp only [reduceCtorEq, false_iff]
    omega

namespace Coin

/-- The amount of a coin of the denomination, nothing for another coin. -/
def worth (c : Coin) (d : Denom) : Nat := if c.denom = d then c.amount.val else 0

/-- What a list of coins is worth in a denomination. -/
def total (cs : List Coin) (d : Denom) : Nat := (cs.map (·.worth d)).sum

@[simp] theorem total_nil (d : Denom) : total [] d = 0 := rfl

@[simp] theorem total_cons (c : Coin) (cs : List Coin) (d : Denom) :
    total (c :: cs) d = c.worth d + total cs d := rfl

/-- No two coins are of one denomination, empty coins apart. -/
def DistinctDenoms (cs : List Coin) : Prop :=
  cs.Pairwise fun a b => a.denom = b.denom → a.amount.isZero = true ∨ b.amount.isZero = true

theorem worth_of_isZero {c : Coin} (h : c.amount.isZero) (d : Denom) : c.worth d = 0 := by
  rw [worth, Amount.isZero_iff.mp h, ite_self]

/-- A coin of so many times the amount is worth so many times as much. -/
theorem worth_of_times {c price : Coin} {count : Nat} (hdenom : c.denom = price.denom)
    (hamount : c.amount.val = price.amount.val * count) (d : Denom) :
    c.worth d = price.worth d * count := by
  rw [worth, worth, hdenom, hamount]
  split
  · rfl
  · rw [Nat.zero_mul]

end Coin

namespace Asset

/-- What a coin is worth; a token is worth nothing in any denomination. -/
def worth (a : Asset) (d : Denom) : Nat :=
  match a with
  | .coin c => c.worth d
  | _ => 0

/-- What a list of prizes is worth in a denomination. -/
def total (as : List Asset) (d : Denom) : Nat := (as.map (·.worth d)).sum

@[simp] theorem total_cons (a : Asset) (as : List Asset) (d : Denom) :
    total (a :: as) d = a.worth d + total as d := rfl

end Asset

namespace Message

/-- The coins that leave with a message. -/
def coins : Message → List Coin
  | .send _ cs => cs
  | .call _ _ funds => funds

/-- What leaves with a list of messages. -/
def total (ms : List Message) (d : Denom) : Nat := (ms.map fun m => Coin.total m.coins d).sum

@[simp] theorem total_nil (d : Denom) : total [] d = 0 := rfl

@[simp] theorem total_cons (m : Message) (ms : List Message) (d : Denom) :
    total (m :: ms) d = Coin.total m.coins d + total ms d := rfl

@[simp] theorem total_append (ms ns : List Message) (d : Denom) :
    total (ms ++ ns) d = total ms d + total ns d := by
  simp [total]

end Message

namespace Purse

theorem amountOf_empty (d : Denom) : (Purse.empty.amountOf d).val = 0 := rfl

theorem amountOf_of_isEmpty {p : Purse} (h : p.isEmpty) (d : Denom) : (p.amountOf d).val = 0 := by
  have hnil : p.coins.entries = [] := by simpa [isEmpty, Table.isEmpty] using h
  rw [amountOf, Table.get?, hnil]
  rfl

theorem amountOf_sub? {p p' : Purse} {c : Coin} (h : p.sub? c = some p') (d : Denom) :
    (p.amountOf d).val = c.worth d + (p'.amountOf d).val := by
  obtain ⟨a, ha, rfl⟩ := Option.map_eq_some_iff.mp h
  rw [Amount.sub?_eq_some] at ha
  rw [amountOf_put, Coin.worth]
  by_cases hd : d = c.denom
  · rw [if_pos hd.symm, if_pos hd, hd, ha]
  · rw [if_neg (Ne.symm hd), if_neg hd, Nat.zero_add]

theorem amountOf_addNew? {p p' : Purse} {c : Coin} (h : p.addNew? c = some p') (d : Denom) :
    (p'.amountOf d).val = (p.amountOf d).val + c.worth d := by
  unfold addNew? at h
  split at h
  · next hz =>
    obtain rfl := Option.some.inj h
    rw [Coin.worth_of_isZero hz, Nat.add_zero]
  · split at h
    · cases h
    · next hnew =>
      obtain rfl := Option.some.inj h
      rw [amountOf_put, Coin.worth]
      by_cases hd : d = c.denom
      · have hz : (p.amountOf d).val = 0 := by
          rw [amountOf, hd, Option.not_isSome_iff_eq_none.mp hnew]
          rfl
        rw [if_pos hd.symm, if_pos hd, hz, Nat.zero_add]
      · rw [if_neg (Ne.symm hd), if_neg hd, Nat.add_zero]

/-- A purse holds of each denomination what the coins put into it are worth. -/
theorem amountOf_foldlM {cs : List Coin} {p p' : Purse} (h : cs.foldlM addNew? p = some p')
    (d : Denom) : (p'.amountOf d).val = (p.amountOf d).val + Coin.total cs d := by
  induction cs generalizing p with
  | nil =>
      obtain rfl : p = p' := by simpa using h
      simp
  | cons c cs ih =>
      obtain ⟨q, hq, hrest⟩ := Option.bind_eq_some_iff.mp (by simpa using h)
      rw [ih hrest, amountOf_addNew? hq, Coin.total_cons, Nat.add_assoc]

theorem amountOf_ofCoins? {cs : List Coin} {p : Purse} (h : ofCoins? cs = some p) (d : Denom) :
    (p.amountOf d).val = Coin.total cs d := by
  rw [amountOf_foldlM h, amountOf_empty, Nat.zero_add]

/-- Coins can be added to a purse when no two of them are of one denomination and the purse holds
none of their denominations, empty coins apart. -/
theorem foldlM_addNew?_isSome {cs : List Coin} {p : Purse} : (cs.foldlM addNew? p).isSome ↔
    Coin.DistinctDenoms cs ∧
      ∀ c ∈ cs, c.amount.isZero = false → p.coins.get? c.denom = none := by
  induction cs generalizing p with
  | nil => simp [Coin.DistinctDenoms]
  | cons c cs ih =>
      rw [List.foldlM_cons, Coin.DistinctDenoms, List.pairwise_cons, List.forall_mem_cons, addNew?]
      cases hz : c.amount.isZero with
      | true => simp [ih, Coin.DistinctDenoms]
      | false =>
          cases hget : p.coins.get? c.denom with
          | some a => simp
          | none =>
              have hput (d : Denom) : (p.put c.denom c.amount).coins.get? d = none ↔
                  d ≠ c.denom ∧ p.coins.get? d = none := by
                rw [put, hz, if_neg Bool.false_ne_true, Table.get?_insert]
                by_cases hd : d = c.denom <;> simp [hd]
              simp only [Option.isSome_none, Bool.false_eq_true, if_false, Option.bind_eq_bind,
                Option.bind_some, ih, hput, false_or, implies_true, true_and]
              constructor
              · rintro ⟨hrest, hnone⟩
                refine ⟨⟨fun c' hc' hd => ?_, hrest⟩, fun c' hc' hz' => (hnone c' hc' hz').2⟩
                by_contra hz'
                exact (hnone c' hc' (eq_false_of_ne_true hz')).1 hd.symm
              · rintro ⟨⟨hfirst, hrest⟩, hnone⟩
                refine ⟨hrest, fun c' hc' hz' => ⟨fun hd => ?_, hnone c' hc' hz'⟩⟩
                rw [hfirst c' hc' hd.symm] at hz'
                cases hz'

/-- A purse can be made of coins when no two of them are of one denomination, empty coins apart. -/
theorem ofCoins?_isSome_iff {cs : List Coin} :
    (ofCoins? cs).isSome ↔ Coin.DistinctDenoms cs := by
  rw [ofCoins?, foldlM_addNew?_isSome]
  exact and_iff_left fun c _ _ => Table.get?_empty c.denom

end Purse

namespace Payment

open Outcome

theorem take_eq_ok {p p' : Purse} {c : Coin} : take p c = .ok p' ↔ p.sub? c = some p' :=
  orRefuse_eq_ok

/-- A fee that is to be paid is an accepted coin that is not zero, and the purse holds it. -/
theorem fee?_eq_some {purse : Purse} {accepted : List Coin} {fee : Coin}
    (h : fee? purse accepted = some (some fee)) :
    fee ∈ accepted ∧ fee.amount.isZero = false ∧ fee.amount ≤ purse.amountOf fee.denom := by
  unfold fee? at h
  split at h
  · cases h
  · next hpriced =>
    obtain ⟨c, hfound, hc⟩ := Option.map_eq_some_iff.mp h
    obtain rfl := Option.some.inj hc
    have hmem := List.mem_of_find?_eq_some hfound
    have hholds := List.find?_some hfound
    rw [Bool.or_eq_true, not_or] at hpriced
    have hnone : c.amount.isZero = false := by
      simpa using fun hz => hpriced.2 (List.any_eq_true.mpr ⟨c, hmem, hz⟩)
    exact ⟨hmem, hnone, of_decide_eq_true hholds⟩

/-- An empty purse pays for nothing that is not free. -/
theorem creationFee_empty {accepted : List Coin} {fee : Option Coin}
    (h : creationFee .empty accepted = .ok fee) : fee = none := by
  cases fee with
  | none => rfl
  | some c =>
      obtain ⟨_, hpriced, hheld⟩ := fee?_eq_some (orRefuse_eq_ok.mp h)
      have hzero : c.amount.val = 0 := Nat.le_zero.mp hheld
      rw [Amount.isZero_iff.mpr hzero] at hpriced
      cases hpriced

theorem exactly_eq_ok {funds : List Coin} {expected c : Coin} (h : exactly funds expected = .ok c)
    (d : Denom) : Coin.total funds d = expected.worth d := by
  unfold exactly at h
  split at h
  · split at h
    · next hz => rw [Coin.worth_of_isZero hz, Coin.total_nil]
    · cases h
  · next sent =>
    split at h
    · next hs =>
      have hs : sent.denom = expected.denom ∧ sent.amount = expected.amount := by
        simpa [sameCoin] using hs
      simp [Coin.worth, hs.1, hs.2]
    · cases h
  · cases h

/-- Whoever pays the oracle's fee has attached exactly that. -/
theorem total_of_oracleFee {funds : List Coin} {fee : Coin} {u : Unit}
    (h : oracleFee funds fee = .ok u) (d : Denom) : Coin.total funds d = fee.worth d := by
  obtain ⟨_, _, h⟩ := bind_eq_ok.mp h
  split at h
  · next hc => exact exactly_eq_ok hc d
  · exact absurd h refuse_ne_ok

end Payment

end Tombola
