import Tombola.Json.Basic
import Tombola.Text.Hex

/-!
# Compact JSON

No white space is written. Inside a string the quote, the backslash and the characters below
`U+0020` are escaped, everything else stands for itself.
-/

namespace Tombola.Json

/-- One character of a string. -/
def escape (c : Char) : List Char :=
  if c = '\x22' then ['\\', '\x22']
  else if c = '\\' then ['\\', '\\']
  else if c = '\x08' then ['\\', 'b']
  else if c = '\t' then ['\\', 't']
  else if c = '\n' then ['\\', 'n']
  else if c = '\x0c' then ['\\', 'f']
  else if c = '\r' then ['\\', 'r']
  else if c.toNat < 0x20 then
    ['\\', 'u', '0', '0', Text.Hex.upperDigit (c.toNat / 16), Text.Hex.upperDigit (c.toNat % 16)]
  else [c]

/-- A string between its quotes. -/
def quote (s : String) : List Char := '\x22' :: (s.toList.flatMap escape ++ ['\x22'])

mutual

/-- The characters of a tree. -/
def chars : Json → List Char
  | .word w => w.toList
  | .text s => quote s
  | .list items => '[' :: itemChars items
  | .object fields => '\x7b' :: fieldChars fields
  termination_by structural j => j

/-- The items of a list that has been opened, and the closing bracket. -/
def itemChars : List Json → List Char
  | [] => [']']
  | [x] => chars x ++ [']']
  | x :: y :: rest => chars x ++ ',' :: itemChars (y :: rest)
  termination_by structural items => items

/-- The fields of an object that has been opened, and the closing bracket. -/
def fieldChars : List (String × Json) → List Char
  | [] => ['\x7d']
  | [f] => oneFieldChars f ++ ['\x7d']
  | f :: g :: rest => oneFieldChars f ++ ',' :: fieldChars (g :: rest)
  termination_by structural fields => fields

/-- One field: its name, a colon and its value. -/
def oneFieldChars : String × Json → List Char
  | (name, value) => quote name ++ ':' :: chars value
  termination_by structural field => field

end

/-- The compact text of a tree. -/
def render (j : Json) : String := String.ofList (chars j)

end Tombola.Json
