import Tombola.Text.Lowercase
import Tombola.Text.Utf8

/-!
# Addresses

An address is any text. An address that a caller writes into a request is checked before it is
used: its length in bytes is limited, and it has to be its own normal form. The normal form is the
lower case of the text, cut to the greatest length, without NUL characters; a text of which the cut
would leave a part of a character has none.
-/

namespace Tombola

/-- An account or a contract, by the text that names it. -/
abbrev Address := String

/-- Why a text is refused as an address. -/
inductive AddressFlaw where
  | tooShort
  | tooLong
  /-- The normal form ends in a part of a character, after so many bytes. -/
  | cutCharacter (position : Nat)
  | notNormalized
  deriving DecidableEq

namespace AddressFlaw

/-- The reason as the address check words it. -/
def message : AddressFlaw → String
  | .tooShort => "human address too short for this mock implementation (must be >= 3)."
  | .tooLong => "human address too long for this mock implementation (must be <= 90)."
  | .cutCharacter position => "incomplete utf-8 byte sequence from index " ++ toString position
  | .notNormalized => "address not normalized"

end AddressFlaw

namespace Address

/-- The fewest bytes that an address can have. -/
def minBytes : Nat := 3

/-- The most bytes that an address can have, and the most that a normal form keeps. -/
def maxBytes : Nat := 90

/-- The lower case of the text, cut to the greatest length, without NUL characters. -/
def normalForm (a : Address) : Except AddressFlaw (List Char) :=
  let lowered := Text.lowercase a.toList
  let kept := Text.fitting maxBytes lowered
  let form := kept.filter (· ≠ '\x00')
  if Text.byteCount kept < min maxBytes (Text.byteCount lowered) then
    .error (.cutCharacter (Text.byteCount form))
  else .ok form

/-- The address itself, when it has an allowed length and is its own normal form. -/
def check (a : Address) : Except AddressFlaw Address :=
  if a.utf8ByteSize < minBytes then .error .tooShort
  else if a.utf8ByteSize > maxBytes then .error .tooLong
  else do
    let form ← a.normalForm
    if form = a.toList then .ok a else .error .notNormalized

end Address

end Tombola
