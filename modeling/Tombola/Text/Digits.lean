/-!
# Decimal digits

Numbers are written as digits without leading zeros (`toString`). A number is read in one of two
ways: strictly, as it would be written, or leniently, where leading zeros and one plus sign in
front are allowed.
-/

namespace Tombola.Text

/-- The value of a decimal digit. -/
def digit? (c : Char) : Option Nat :=
  if '0' ≤ c ∧ c ≤ '9' then some (c.toNat - '0'.toNat) else none

/-- The value of a non-empty run of digits. -/
def digits? : List Char → Option Nat
  | [] => none
  | cs => cs.foldlM (fun n c => (digit? c).map (10 * n + ·)) 0

/-- Leading zeros and one plus sign in front are allowed. -/
def lenient? : List Char → Option Nat
  | '+' :: cs => digits? cs
  | cs => digits? cs

/-- Only zero itself starts with a zero, and there is no sign. -/
def strict? : List Char → Option Nat
  | ['0'] => some 0
  | '0' :: _ => none
  | cs => digits? cs

/-- The digits of `n`, with zeros in front up to `width` places. -/
def padded (width n : Nat) : List Char :=
  let ds := (toString n).toList
  List.replicate (width - ds.length) '0' ++ ds

end Tombola.Text
