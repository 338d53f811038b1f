import Tombola.Json.Basic
import Tombola.Json.Quoted
import Tombola.Text.Blank

/-!
# Reading JSON

A recursive reader over bytes: the characters of the grammar are ASCII, and only the content of a
string has to be UTF-8. The recursion is bounded by the depth of nesting, of which 127 levels are
allowed. A bare word ends only where a comma or a closing bracket follows. In an object there is a
comma between two fields and nowhere else. In a list every element but one has a comma before it;
which one has none is left open.
-/

namespace Tombola.Json

/-- A byte as the grammar sees it: no character of the grammar is beyond ASCII, so any other byte is
a character without a meaning. -/
abbrev seen (b : UInt8) : Char := Char.ofUInt8 b

/-- The byte is white space between tokens. -/
def isSpaceByte (b : UInt8) : Bool := Text.isJsonSpace (seen b)

/-- What is left after white space. -/
def skipSpace (bs : Bytes) : Bytes := bs.dropWhile isSpaceByte

/-- A comma or a closing bracket. -/
def isDelimiter (c : Char) : Bool := c == ',' || c == '\x7d' || c == ']'

/-- The text of a bare word. One that is no text has no meaning, and is kept as the character that
stands for what cannot be read. -/
def wordText (bs : Bytes) : String := (Text.ofUtf8? bs).getD "\uFFFD"

/-- A bare word without the white space after it. -/
def readWord (bs : Bytes) : String × Bytes :=
  let (w, rest) := bs.span fun b => !isDelimiter (seen b)
  (wordText (w.reverse.dropWhile isSpaceByte).reverse, rest)

/-- The elements of a list that has been opened, up to the closing bracket; `spare` tells that the
element without a comma before it is still to come. Each element takes a byte at least, so the
number of bytes bounds the number of elements. -/
def elements (value : Bytes → Option (Json × Bytes)) :
    Nat → Bool → Bytes → Option (List Json × Bytes)
  | 0, _, _ => none
  | fuel + 1, spare, bs =>
    match skipSpace bs with
    | [] => none
    | b :: rest =>
      if seen b = ']' then some ([], rest)
      else if seen b = ',' then
        match value rest with
        | none => none
        | some (j, rest) => (elements value fuel spare rest).map fun r => (j :: r.1, r.2)
      else if spare then
        match value (b :: rest) with
        | none => none
        | some (j, rest) => (elements value fuel false rest).map fun r => (j :: r.1, r.2)
      else none

/-- A name, a colon and a value. -/
def readField (value : Bytes → Option (Json × Bytes)) (bs : Bytes) :
    Option ((String × Json) × Bytes) :=
  match skipSpace bs with
  | [] => none
  | b :: rest =>
    if seen b = '\x22' then
      match unquote rest with
      | none => none
      | some (name, rest) =>
        match skipSpace rest with
        | [] => none
        | b :: rest =>
          if seen b = ':' then (value rest).map fun r => ((name, r.1), r.2) else none
    else none

/-- One field or more up to the closing bracket. Each field takes a byte at least. -/
def fieldsFrom (value : Bytes → Option (Json × Bytes)) :
    Nat → Bytes → Option (List (String × Json) × Bytes)
  | 0, _ => none
  | fuel + 1, bs =>
    match readField value bs with
    | none => none
    | some (field, rest) =>
      match skipSpace rest with
      | [] => none
      | b :: rest =>
        if seen b = ',' then (fieldsFrom value fuel rest).map fun r => (field :: r.1, r.2)
        else if seen b = '\x7d' then some ([field], rest)
        else none

/-- The fields of an object that has been opened, up to the closing bracket. -/
def readFields (value : Bytes → Option (Json × Bytes)) (bs : Bytes) :
    Option (List (String × Json) × Bytes) :=
  match skipSpace bs with
  | [] => none
  | b :: rest =>
    if seen b = '\x7d' then some ([], rest) else fieldsFrom value (rest.length + 1) (b :: rest)

/-- A value and what follows it. Brackets need a depth above one. -/
def readValue : Nat → Bytes → Option (Json × Bytes)
  | 0, _ => none
  | depth + 1, bs =>
    match skipSpace bs with
    | [] => none
    | b :: rest =>
      if seen b = '\x22' then (unquote rest).map fun r => (.text r.1, r.2)
      else if seen b = '[' then
        if depth = 0 then none
        else (elements (readValue depth) (rest.length + 1) true rest).map fun r => (.list r.1, r.2)
      else if seen b = '\x7b' then
        if depth = 0 then none
        else (readFields (readValue depth) rest).map fun r => (.object r.1, r.2)
      else if isDelimiter (seen b) then none
      else
        let (w, rest) := readWord (b :: rest)
        some (.word w, rest)

/-- One more than the number of levels that brackets may be nested. -/
def depthLimit : Nat := 128

/-- The tree of bytes that hold one value and white space around it. -/
def ofBytes? (bs : Bytes) : Option Json :=
  match readValue depthLimit bs with
  | some (j, rest) => if rest.all isSpaceByte then some j else none
  | none => none

/-- The tree of a text that holds one value and white space around it. -/
def parse? (s : String) : Option Json := ofBytes? (Text.utf8 s)

end Tombola.Json
