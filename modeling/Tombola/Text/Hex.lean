import Tombola.Text.Utf8

/-!
# Hexadecimal text

Bytes are written as two lower-case digits each, and either case is read. A text that is no sequence
of bytes has one of two flaws: an odd length, which is looked at first, or a character that is no
digit, reported with its position. Length and position count the bytes of the text.
-/

namespace Tombola.Text.Hex

/-- The digit of a value below sixteen, in lower case. -/
def lowerDigit (n : Nat) : Char :=
  if n < 10 then Char.ofNat ('0'.toNat + n) else Char.ofNat ('a'.toNat + (n - 10))

/-- The digit of a value below sixteen, in upper case. -/
def upperDigit (n : Nat) : Char :=
  if n < 10 then Char.ofNat ('0'.toNat + n) else Char.ofNat ('A'.toNat + (n - 10))

/-- The value of a digit of either case, given as a code point. -/
def digit? (n : Nat) : Option Nat :=
  if '0'.toNat ≤ n ∧ n ≤ '9'.toNat then some (n - '0'.toNat)
  else if 'a'.toNat ≤ n ∧ n ≤ 'f'.toNat then some (n - 'a'.toNat + 10)
  else if 'A'.toNat ≤ n ∧ n ≤ 'F'.toNat then some (n - 'A'.toNat + 10)
  else none

/-- Two lower-case digits for each byte, the high one first. -/
def writeChars (bs : Bytes) : List Char :=
  bs.flatMap fun b => [lowerDigit (b.toNat / 16), lowerDigit (b.toNat % 16)]

/-- The text of bytes in lower case. -/
def write (bs : Bytes) : String := String.ofList (writeChars bs)

/-- The bytes in upper case with commas between them. -/
def listText (bs : Bytes) : String :=
  let one (b : UInt8) := String.ofList [upperDigit (b.toNat / 16), upperDigit (b.toNat % 16)]
  "[" ++ ", ".intercalate (bs.map one) ++ "]"

/-- Why a text is no sequence of bytes. -/
inductive Flaw where
  | oddLength
  | notDigit (byte : UInt8) (position : Nat)
  deriving DecidableEq

/-- The bytes of digits that start at a position. -/
def readFrom (position : Nat) : Bytes → Except Flaw Bytes
  | [] => .ok []
  | [_] => .error .oddLength
  | high :: low :: rest =>
    match digit? high.toNat, digit? low.toNat with
    | some h, some l => (readFrom (position + 2) rest).map (UInt8.ofNat (16 * h + l) :: ·)
    | none, _ => .error (.notDigit high position)
    | some _, none => .error (.notDigit low (position + 1))

/-- The bytes of a text, or the first flaw in it. -/
def read (s : String) : Except Flaw Bytes :=
  let bs := utf8 s
  if bs.length % 2 = 0 then readFrom 0 bs else .error .oddLength

/-- The bytes of a text that has no flaw. -/
def read? (s : String) : Option Bytes := (read s).toOption

/-- A byte between quotes, as the Latin character of its value; one that cannot be seen is written
as an escape. -/
def quotedByte (b : UInt8) : String :=
  let shown :=
    if b = 0 then "\\0" else if b = 9 then "\\t" else if b = 10 then "\\n"
    else if b = 13 then "\\r" else if b = 39 then "\\'" else if b = 92 then "\\\\"
    else if b < 32 || (127 ≤ b && b ≤ 160) || b = 173 then
      let high := b.toNat / 16
      let digits := (if high = 0 then [] else [lowerDigit high]) ++ [lowerDigit (b.toNat % 16)]
      "\\u\x7b" ++ String.ofList digits ++ "\x7d"
    else (Char.ofNat b.toNat).toString
  "'" ++ shown ++ "'"

/-- The flaw in words. -/
def Flaw.message : Flaw → String
  | .oddLength => "Invalid hex string: Odd number of digits"
  | .notDigit byte position =>
    "Invalid hex string: Invalid character " ++ quotedByte byte ++ " at position " ++
      toString position

end Tombola.Text.Hex
