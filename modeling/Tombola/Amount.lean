import Tombola.Text.Digits

/-!
# Amounts of a coin

An amount is a natural number below `2 ^ 128`. Nothing wraps: each operation that could leave the
range gives no result there.
-/

namespace Tombola

/-- The least number above every amount: two to the power of 128. -/
def amountBound : Nat := 0x100000000000000000000000000000000

/-- A number of coins of one denomination. -/
structure Amount where
  val : Nat
  lt : val < amountBound
  deriving DecidableEq

namespace Amount

/-- The amount of a number, when it is in range. -/
def ofNat? (n : Nat) : Option Amount :=
  if h : n < amountBound then some ⟨n, h⟩ else none

/-- Every number of 64 bits is an amount. -/
def ofWord (n : UInt64) : Amount := ⟨n.toNat, Nat.lt_trans n.toNat_lt (by decide)⟩

/-- No coins at all. -/
def zero : Amount := .ofWord 0

instance : Inhabited Amount := ⟨zero⟩

instance : LE Amount := ⟨fun a b => a.val ≤ b.val⟩

instance : LT Amount := ⟨fun a b => a.val < b.val⟩

instance (a b : Amount) : Decidable (a ≤ b) := inferInstanceAs (Decidable (a.val ≤ b.val))

instance (a b : Amount) : Decidable (a < b) := inferInstanceAs (Decidable (a.val < b.val))

/-- There is nothing of the coin. -/
def isZero (a : Amount) : Bool := a.val == 0

/-- The sum, when an amount can hold it. -/
def add? (a b : Amount) : Option Amount := ofNat? (a.val + b.val)

/-- What is left of the first amount, when it is not the smaller one. -/
def sub? (a b : Amount) : Option Amount :=
  if b ≤ a then some ⟨a.val - b.val, Nat.lt_of_le_of_lt (Nat.sub_le _ _) a.lt⟩ else none

/-- `n` times the amount. -/
def times? (a : Amount) (n : Nat) : Option Amount := ofNat? (a.val * n)

/-- The digits of the amount. -/
def text (a : Amount) : String := toString a.val

/-- The amount of a text: digits, with leading zeros and one plus sign allowed in front. -/
def read? (s : String) : Option Amount := Text.lenient? s.toList >>= ofNat?

end Amount

end Tombola
