import Tombola.Text.Digits

/-!
# Points in time

A timestamp counts nanoseconds in 64 bits. A duration counts seconds in 64 bits, so a duration
added to a timestamp can leave the range, and then there is no result.
-/

namespace Tombola

/-- A number of seconds. -/
abbrev Seconds := UInt64

/-- A point in time, as nanoseconds since the start of the clock. -/
@[ext]
structure Timestamp where
  nanos : UInt64
  deriving DecidableEq

namespace Timestamp

/-- The number of nanoseconds in a second. -/
def nanosPerSecond : Nat := 1000000000

instance : Inhabited Timestamp := ⟨⟨0⟩⟩

instance : LE Timestamp := ⟨fun a b => a.nanos ≤ b.nanos⟩

instance : LT Timestamp := ⟨fun a b => a.nanos < b.nanos⟩

instance (a b : Timestamp) : Decidable (a ≤ b) := inferInstanceAs (Decidable (a.nanos ≤ b.nanos))

instance (a b : Timestamp) : Decidable (a < b) := inferInstanceAs (Decidable (a.nanos < b.nanos))

instance : Max Timestamp := maxOfLe

/-- The time after so many nanoseconds, when it is in range. -/
def ofNanos? (n : Nat) : Option Timestamp :=
  if n < UInt64.size then some ⟨UInt64.ofNat n⟩ else none

/-- The time after so many seconds, when it is in range. -/
def ofSeconds? (s : Seconds) : Option Timestamp := ofNanos? (s.toNat * nanosPerSecond)

/-- The time so many seconds later, when it is in range. -/
def addSeconds? (t : Timestamp) (s : Seconds) : Option Timestamp :=
  ofNanos? (t.nanos.toNat + s.toNat * nanosPerSecond)

/-- The whole seconds before this time. -/
def seconds (t : Timestamp) : Seconds := UInt64.ofNat (t.nanos.toNat / nanosPerSecond)

/-- Seconds and nine places of nanoseconds. -/
def text (t : Timestamp) : String :=
  toString (t.nanos.toNat / nanosPerSecond) ++ "." ++
    String.ofList (Text.padded 9 (t.nanos.toNat % nanosPerSecond))

end Timestamp

end Tombola
