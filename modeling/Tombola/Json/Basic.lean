/-!
# JSON texts as trees

Numbers, truth values and null are bare words. A bare word is kept as it is written, because a word
that nobody looks at may be anything; whoever looks at one decides what it means. The fields of an
object keep their order and may repeat a name.
-/

namespace Tombola

/-- A JSON value, with bare words as they were written. -/
inductive Json where
  | word (text : String)
  | text (value : String)
  | list (items : List Json)
  | object (fields : List (String × Json))

namespace Json

/-- The word for no value. -/
def null : Json := .word "null"

/-- The word for a truth value. -/
def ofBool (b : Bool) : Json := .word (if b then "true" else "false")

/-- A number as the word of its digits. -/
def ofNat (n : Nat) : Json := .word (toString n)

instance : Inhabited Json := ⟨null⟩

end Json

end Tombola
