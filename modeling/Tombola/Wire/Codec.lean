import Tombola.Json.Printer
import Tombola.Json.Reader
import Tombola.Text.Base64
import Tombola.Text.Digits
import Tombola.Wire.Shape

/-!
# Codecs

A codec holds, for one type, the writer, the reader and the shape of its JSON form. The codec of a
record is put together from its fields and that of a sum from its cases, so that the three always
speak of the same names. A closed record refuses names it does not know; no record takes one of its
own names twice.
-/

namespace Tombola.Wire

/-- How the values of a type are written and read, and the shape that they have. -/
structure Codec (α : Type) where
  shape : Shape
  write : α → Json
  read? : Json → Option α
  /-- The value of a field that is left out. -/
  absent? : Option α := none

namespace Codec

variable {α β : Type}

/-- The compact text of a value. -/
def encode (c : Codec α) (a : α) : String := (c.write a).render

/-- The value of a text. -/
def decode? (c : Codec α) (text : String) : Option α := Json.parse? text >>= c.read?

/-- The value of a text that is given as bytes. -/
def decodeBytes? (c : Codec α) (bytes : Bytes) : Option α := Json.ofBytes? bytes >>= c.read?

/-- A string that stands for a value. -/
def ofText (write : α → String) (read? : String → Option α) : Codec α where
  shape := .text
  write a := .text (write a)
  read?
    | .text s => read? s
    | _ => none

/-- Any text, which stands for itself. -/
def text : Codec String := ofText id some

/-- A truth value. -/
def flag : Codec Bool where
  shape := .flag
  write := .ofBool
  read?
    | .word "true" => some true
    | .word "false" => some false
    | _ => none

/-- A bare number below a bound. -/
def natBelow (bound : Nat) (format : String) : Codec { n : Nat // n < bound } where
  shape := .integer format
  write n := .ofNat n
  read?
    | .word w => do
      let n ← Text.strict? w.toList
      if h : n < bound then some ⟨n, h⟩ else none
    | _ => none

/-- Writes and reads by way of another type. -/
def via (c : Codec α) (view : β → α) (make : α → β) : Codec β where
  shape := c.shape
  write b := c.write (view b)
  read? j := (c.read? j).map make
  absent? := c.absent?.map make

/-- A number of 64 bits. -/
def uint64 : Codec UInt64 :=
  (natBelow UInt64.size "uint64").via (fun n => ⟨n.toNat, n.toNat_lt⟩) fun n =>
    UInt64.ofNatLT n.1 n.2

/-- A number of 32 bits. -/
def uint32 : Codec UInt32 :=
  (natBelow UInt32.size "uint32").via (fun n => ⟨n.toNat, n.toNat_lt⟩) fun n =>
    UInt32.ofNatLT n.1 n.2

/-- Values in a list. -/
def list (c : Codec α) : Codec (List α) where
  shape := .list c.shape
  write as := .list (as.map c.write)
  read?
    | .list items => items.mapM c.read?
    | _ => none

/-- A value that may be null. As a field it may also be left out. -/
def optional (c : Codec α) : Codec (Option α) where
  shape := .optional c.shape
  write
    | none => .null
    | some a => c.write a
  read?
    | .word "null" => some none
    | j => (c.read? j).map some
  absent? := some none

/-- Gives the type a name to be referred to by. -/
def named (name : String) (c : Codec α) : Codec α := { c with shape := .named name c.shape }

/-- The same codec where the reference carries remarks. -/
def remarked (c : Codec α) : Codec α := { c with shape := .remarked c.shape }

end Codec

/-! ## Records -/

/-- Some fields of a record `σ`, from which an `α` is read. -/
structure Fields (σ α : Type) where
  shapes : List (String × Shape)
  write : σ → List (String × Json)
  read? : List (String × Json) → Option α

namespace Fields

variable {σ α β : Type}

/-- No fields: the value does not depend on any. -/
def pure (a : α) : Fields σ α := ⟨[], fun _ => [], fun _ => some a⟩

/-- The fields of both, the ones on the left first. -/
def seq (f : Fields σ (α → β)) (x : Fields σ α) : Fields σ β where
  shapes := f.shapes ++ x.shapes
  write s := f.write s ++ x.write s
  read? fields := do
    let g ← f.read? fields
    let a ← x.read? fields
    some (g a)

instance : Applicative (Fields σ) where
  pure := pure
  seq f x := seq f (x ())
  map g x := seq (pure g) x

/-- The names of the fields, in the order in which they are written. -/
def names (f : Fields σ α) : List String := f.shapes.map (·.1)

/-- The value of an object's fields, none of the known names repeated and, when the record is
closed, no other name present. -/
def ofObject? (f : Fields σ α) (closed : Bool) : Json → Option α
  | .object fields =>
    let present := fields.map (·.1)
    if (!closed || present.all f.names.contains) && (present.filter f.names.contains).Nodup then
      f.read? fields
    else none
  | _ => none

end Fields

/-- One field of a record. -/
def field {σ α : Type} (name : String) (get : σ → α) (c : Codec α) : Fields σ α where
  shapes := [(name, c.shape)]
  write s := [(name, c.write (get s))]
  read? fields :=
    match fields.lookup name with
    | some j => c.read? j
    | none => c.absent?

namespace Codec

variable {σ : Type}

/-- An object with the fields of a record. -/
def recordOf (closed : Bool) (f : Fields σ σ) : Codec σ where
  shape := .record f.shapes closed
  write s := .object (f.write s)
  read? := f.ofObject? closed

/-- A record that refuses names it does not know. -/
def record (f : Fields σ σ) : Codec σ := recordOf true f

/-- A record in which names it does not know are passed over. -/
def openRecord (f : Fields σ σ) : Codec σ := recordOf false f

end Codec

/-! ## Sums -/

/-- One case of a sum `σ`. -/
structure Case (σ : Type) where
  tag : String
  /-- Another tag that is read as this one. -/
  alias? : Option String
  shape : Shape
  write? : σ → Option Json
  read? : Json → Option σ

namespace Case

/-- The tag is that of the case or its other one. -/
def accepts {σ : Type} (c : Case σ) (tag : String) : Bool := tag == c.tag || some tag == c.alias?

end Case

/-- The case whose values are those of `α`: how to make one and how to see that it is one. -/
def case {σ α : Type} (tag : String) (c : Codec α) (make : α → σ) (view? : σ → Option α)
    (alias? : Option String := none) : Case σ where
  tag
  alias?
  shape := c.shape
  write? s := (view? s).map c.write
  read? j := (c.read? j).map make

namespace Codec

variable {σ : Type}

/-- An object whose only field is the tag of a case with the value of that case. -/
def variants (cases : List (Case σ)) : Codec σ where
  shape := .variants (cases.map fun c => (c.tag, c.shape))
  write s :=
    (cases.findSome? fun c => (c.write? s).map fun j => Json.object [(c.tag, j)]).getD .null
  read?
    | .object [(tag, j)] => cases.find? (·.accepts tag) >>= (·.read? j)
    | _ => none

/-- One of a few texts. -/
def names (values : List σ) (text : σ → String) : Codec σ where
  shape := .names (values.map text)
  write s := .text (text s)
  read?
    | .text t => values.find? fun s => text s == t
    | _ => none

end Codec

end Tombola.Wire
