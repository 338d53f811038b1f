import Tombola.Amount

/-!
# Decimal fractions

A decimal fraction has eighteen places and is kept as the number of its last places, which is in the
range of an amount. It is written with no trailing zeros.
-/

namespace Tombola

/-- A fraction, counted in its last places. -/
structure Decimal where
  /-- The number of last places. -/
  units : Amount
  deriving DecidableEq

namespace Decimal

/-- The number of places after the point. -/
def places : Nat := 18

/-- The fraction with a number of last places, when that is in range. -/
def ofUnits? (n : Nat) : Option Decimal := (Amount.ofNat? n).map .mk

/-- Nothing. -/
def zero : Decimal := ⟨.zero⟩

/-- The whole. -/
def one : Decimal := ⟨.ofWord 1000000000000000000⟩

/-- How many last places make one. -/
def scale : Nat := one.units.val

instance : Inhabited Decimal := ⟨zero⟩

instance : LE Decimal := ⟨fun a b => a.units ≤ b.units⟩

instance : LT Decimal := ⟨fun a b => a.units < b.units⟩

instance (a b : Decimal) : Decidable (a ≤ b) := inferInstanceAs (Decidable (a.units ≤ b.units))

instance (a b : Decimal) : Decidable (a < b) := inferInstanceAs (Decidable (a.units < b.units))

/-- The whole part, then a point and the places that are left when trailing zeros are dropped. -/
def text (d : Decimal) : String :=
  let fraction := (Text.padded places (d.units.val % scale)).reverse.dropWhile (· == '0')
  let whole := toString (d.units.val / scale)
  if fraction.isEmpty then whole else whole ++ "." ++ String.ofList fraction.reverse

/-- The number with zeros written after it. -/
def withZeros (n : Nat) : Nat → Nat
  | 0 => n
  | zeros + 1 => withZeros (10 * n) zeros

/-- Both parts are read leniently; the fraction, when there is one, has one to eighteen characters,
a plus sign among them. -/
def read? (s : String) : Option Decimal :=
  let (whole, rest) := s.toList.span (· != '.')
  match Text.lenient? whole, rest with
  | some w, [] => ofUnits? (w * scale)
  | some w, _ :: fraction =>
    if fraction.length ≤ places then do
      let f ← Text.lenient? fraction
      ofUnits? (w * scale + withZeros f (places - fraction.length))
    else none
  | none, _ => none

end Decimal

end Tombola
