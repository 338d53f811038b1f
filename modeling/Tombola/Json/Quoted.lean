import Tombola.Text.Hex

/-!
# Quoted strings

The content of a string ends at the first quote that is not taken along by a backslash. It has to be
UTF-8. A content without a backslash is the text itself, whatever its characters. In one with a
backslash the control characters have to be escaped.

A code point beyond the basic plane is escaped as two halves. The high half waits for the low one:
between the two there may be other escapes, whose characters then come first, and nothing else.
-/

namespace Tombola.Json

/-- The code unit of four hexadecimal digits. -/
def codeUnit? (a b c d : Char) : Option Nat := do
  let a ← Text.Hex.digit? a.toNat
  let b ← Text.Hex.digit? b.toNat
  let c ← Text.Hex.digit? c.toNat
  let d ← Text.Hex.digit? d.toNat
  pure (((a * 16 + b) * 16 + c) * 16 + d)

/-- The code unit is the first half of a character beyond the basic plane. -/
def isHighHalf (n : Nat) : Bool := 0xD800 ≤ n && n ≤ 0xDBFF

/-- The code unit is the second half of a character beyond the basic plane. -/
def isLowHalf (n : Nat) : Bool := 0xDC00 ≤ n && n ≤ 0xDFFF

/-- The character of two halves. -/
def joinHalves (high low : Nat) : Char :=
  Char.ofNat (0x10000 + (high - 0xD800) * 0x400 + (low - 0xDC00))

/-- The character that follows a backslash, other than a code unit. -/
def unescape? (c : Char) : Option Char :=
  if c = '\x22' ∨ c = '\\' ∨ c = '/' then some c
  else if c = 'b' then some '\x08'
  else if c = 'f' then some '\x0c'
  else if c = 'n' then some '\n'
  else if c = 'r' then some '\r'
  else if c = 't' then some '\t'
  else none

/-- The characters that a content with escapes stands for, given the high half that waits. -/
def unescapeAll? : Option Nat → List Char → Option (List Char)
  | none, [] => some []
  | some _, [] => none
  | waiting, '\\' :: 'u' :: a :: b :: c :: d :: rest =>
    match codeUnit? a b c d with
    | none => none
    | some unit =>
      if isHighHalf unit then
        match waiting with
        | none => unescapeAll? (some unit) rest
        | some _ => none
      else if isLowHalf unit then
        match waiting with
        | none => none
        | some high => (unescapeAll? none rest).map (joinHalves high unit :: ·)
      else (unescapeAll? waiting rest).map (Char.ofNat unit :: ·)
  | waiting, '\\' :: c :: rest =>
    match unescape? c with
    | some x => (unescapeAll? waiting rest).map (x :: ·)
    | none => none
  | none, c :: rest =>
    if c = '\\' ∨ c.toNat < 0x20 then none else (unescapeAll? none rest).map (c :: ·)
  | some _, _ :: _ => none

/-- The text of the content of a string. -/
def ofContent? (content : Bytes) : Option String := do
  let s ← Text.ofUtf8? content
  if s.toList.contains '\\' then (unescapeAll? none s.toList).map String.ofList else some s

/-- The content of a string that has been opened, and what follows its closing quote. -/
def delimit : Bytes → Option (Bytes × Bytes)
  | [] => none
  | b :: rest =>
    if b = '\x22'.toUInt8 then some ([], rest)
    else if b = '\\'.toUInt8 then
      match rest with
      | [] => none
      | c :: rest => (delimit rest).map fun r => (b :: c :: r.1, r.2)
    else (delimit rest).map fun r => (b :: r.1, r.2)

/-- The text of a string that has been opened, and what follows it. -/
def unquote (bs : Bytes) : Option (String × Bytes) := do
  let (content, rest) ← delimit bs
  let s ← ofContent? content
  some (s, rest)

end Tombola.Json
