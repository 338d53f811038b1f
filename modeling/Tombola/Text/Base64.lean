import Tombola.Text.Hex

/-!
# Base64 text

The standard alphabet. Padding is written, and when a text is read it may be left out in whole or in
part. The bits of the last symbol that belong to no byte have to be zero.
-/

namespace Tombola.Text.Base64

/-- The symbol of six bits. -/
def symbol (n : Nat) : Char :=
  if n < 26 then Char.ofNat ('A'.toNat + n)
  else if n < 52 then Char.ofNat ('a'.toNat + (n - 26))
  else if n < 62 then Char.ofNat ('0'.toNat + (n - 52))
  else if n = 62 then '+' else '/'

/-- The six bits of a symbol of the alphabet. -/
def value? (c : Char) : Option Nat :=
  if 'A' ≤ c ∧ c ≤ 'Z' then some (c.toNat - 'A'.toNat)
  else if 'a' ≤ c ∧ c ≤ 'z' then some (c.toNat - 'a'.toNat + 26)
  else if '0' ≤ c ∧ c ≤ '9' then some (c.toNat - '0'.toNat + 52)
  else if c = '+' then some 62
  else if c = '/' then some 63
  else none

/-- Each three bytes give four symbols; one or two bytes at the end are padded. -/
def writeChars : Bytes → List Char
  | [] => []
  | [a] => [symbol (a.toNat / 4), symbol (a.toNat % 4 * 16), '=', '=']
  | [a, b] =>
    [symbol (a.toNat / 4), symbol (a.toNat % 4 * 16 + b.toNat / 16), symbol (b.toNat % 16 * 4), '=']
  | a :: b :: c :: rest =>
    symbol (a.toNat / 4) :: symbol (a.toNat % 4 * 16 + b.toNat / 16) ::
      symbol (b.toNat % 16 * 4 + c.toNat / 64) :: symbol (c.toNat % 64) :: writeChars rest

/-- The padded text of bytes. -/
def write (bs : Bytes) : String := String.ofList (writeChars bs)

/-- The bytes of six-bit values, four values for each three bytes. -/
def ofValues? : List Nat → Option Bytes
  | [] => some []
  | [_] => none
  | [a, b] => if b % 16 = 0 then some [UInt8.ofNat (a * 4 + b / 16)] else none
  | [a, b, c] =>
    if c % 4 = 0 then some [UInt8.ofNat (a * 4 + b / 16), UInt8.ofNat (b % 16 * 16 + c / 4)]
    else none
  | a :: b :: c :: d :: rest => do
    let bs ← ofValues? rest
    pure (UInt8.ofNat (a * 4 + b / 16) :: UInt8.ofNat (b % 16 * 16 + c / 4) ::
      UInt8.ofNat (c % 4 * 64 + d) :: bs)

/-- Padding completes a last group of two or three symbols, or a part of it. -/
def paddingFits (symbols pads : Nat) : Bool :=
  pads == 0 || (2 ≤ symbols % 4 && symbols % 4 + pads ≤ 4)

/-- The bytes of symbols and the padding behind them. -/
def readChars? (cs : List Char) : Option Bytes :=
  let (symbols, pads) := cs.span (· != '=')
  if pads.all (· == '=') && paddingFits symbols.length pads.length then
    symbols.mapM value? >>= ofValues?
  else none

/-- The bytes of a text. -/
def read? (s : String) : Option Bytes := readChars? s.toList

end Tombola.Text.Base64
