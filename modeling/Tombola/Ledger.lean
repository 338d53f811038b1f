import Tombola.Raffle.Basic
import Tombola.Table

/-!
# Ticket ledgers

The tickets of a raffle are numbered by slots from zero. A purchase takes consecutive slots and is
kept under the first of them, so the purchase that covers a slot is the last one at or below it.
-/

namespace Tombola

/-- The number of a ticket in its raffle. -/
abbrev Slot := UInt32

/-- The slot with a number, when there are that many. -/
def Slot.ofNat? (n : Nat) : Option Slot := if n < UInt32.size then some (UInt32.ofNat n) else none

/-- Who has bought a run of tickets, and how many. -/
structure Purchase where
  buyer : Address
  count : TicketCount
  deriving DecidableEq

/-- The purchases in a raffle, each under the first of its slots. -/
abbrev Ledger := Table Slot Purchase

namespace Ledger

/-- The buyer whose purchase is the last one at or below the slot. -/
def ownerOf? (l : Ledger) (slot : Slot) : Option Address := (l.floor? slot).map (·.2.buyer)

/-- The first slot of the purchase that covers a slot; zero when no purchase is at or below it. -/
def covering (l : Ledger) (slot : Slot) : Slot := ((l.floor? slot).map (·.1)).getD 0

/-- The purchases in the order of their slots. -/
def purchases (l : Ledger) : List Purchase := l.entries.map (·.2)

end Ledger

end Tombola
