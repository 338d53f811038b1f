import Tombola.Ledger
import Tombola.Proofs.Table

/-!
# Ledgers that divide the sold slots

A ledger is in order when its purchases take consecutive slots from zero on. Then they divide the
slots below the number of sold tickets among themselves, the purchase that covers a slot is the one
that a look-up by slot finds, and a purchase entered at the end keeps everything before it.
-/

namespace Tombola.Ledger

open Std

/-- The entry takes the slot. -/
def Covers (e : Slot × Purchase) (n : Nat) : Prop :=
  e.1.toNat ≤ n ∧ n < e.1.toNat + e.2.count.toNat

/-- The purchases divide the slots below `sold` among themselves. -/
structure Partitions (l : Ledger) (sold : Nat) : Prop where
  positive : ∀ e ∈ l.entries, e.2.count ≠ 0
  disjoint : l.entries.Pairwise fun a b => ∀ n, ¬(Covers a n ∧ Covers b n)
  covered : ∀ n, n < sold ↔ ∃ e ∈ l.entries, Covers e n

/-- The entries take consecutive slots, from `start` to the one before `stop`. -/
def Consecutive : Nat → List (Slot × Purchase) → Nat → Prop
  | start, [], stop => start = stop
  | start, e :: rest, stop =>
    e.1.toNat = start ∧ e.2.count ≠ 0 ∧ Consecutive (start + e.2.count.toNat) rest stop

/-- How many tickets purchases come to. -/
def tickets (ps : List Purchase) : Nat := (ps.map (·.count.toNat)).sum

/-- How many tickets a buyer has by the ledger. -/
def ticketsOf (l : Ledger) (buyer : Address) : Nat :=
  tickets (l.purchases.filter fun p => p.buyer = buyer)

theorem tickets_filter_le (ps : List Purchase) (f : Purchase → Bool) :
    tickets (ps.filter f) ≤ tickets ps := by
  induction ps with
  | nil => simp
  | cons p ps ih =>
      simp only [tickets, List.filter_cons] at ih ⊢
      split <;> simp only [List.map_cons, List.sum_cons] <;> omega

variable {es : List (Slot × Purchase)} {start stop : Nat} {e : Slot × Purchase}

theorem Consecutive.stop_eq (h : Consecutive start es stop) :
    stop = start + tickets (es.map (·.2)) := by
  induction es generalizing start with
  | nil => exact h.symm
  | cons x rest ih =>
      rw [ih h.2.2]
      simp only [tickets, List.map_cons, List.sum_cons]
      omega

theorem Consecutive.bounds (h : Consecutive start es stop) (he : e ∈ es) :
    start ≤ e.1.toNat ∧ e.1.toNat + e.2.count.toNat ≤ stop := by
  induction es generalizing start with
  | nil => cases he
  | cons x rest ih =>
      rcases List.mem_cons.mp he with rfl | he
      · have := h.2.2.stop_eq
        have := h.1
        omega
      · have := ih h.2.2 he
        omega

theorem Consecutive.positive (h : Consecutive start es stop) (he : e ∈ es) : e.2.count ≠ 0 := by
  induction es generalizing start with
  | nil => cases he
  | cons x rest ih =>
      rcases List.mem_cons.mp he with rfl | he
      · exact h.2.1
      · exact ih h.2.2 he

theorem Consecutive.eq_nil (h : Consecutive start es start) : es = [] := by
  cases es with
  | nil => rfl
  | cons x rest =>
      have hpos : x.2.count.toNat ≠ 0 := fun hz => h.2.1 (UInt32.toNat_inj.mp hz)
      have := h.2.2.stop_eq
      omega

theorem Consecutive.disjoint (h : Consecutive start es stop) :
    es.Pairwise fun a b => a.1.toNat + a.2.count.toNat ≤ b.1.toNat := by
  induction es generalizing start with
  | nil => exact .nil
  | cons x rest ih =>
      refine List.pairwise_cons.mpr ⟨fun b hb => ?_, ih h.2.2⟩
      rw [h.1]
      exact (h.2.2.bounds hb).1

theorem Consecutive.exists_covers (h : Consecutive start es stop) {n : Nat} (hs : start ≤ n)
    (hn : n < stop) : ∃ e ∈ es, Covers e n := by
  induction es generalizing start with
  | nil =>
      have : start = stop := h
      omega
  | cons x rest ih =>
      by_cases hx : n < start + x.2.count.toNat
      · refine ⟨x, List.mem_cons_self, ?_, ?_⟩ <;> rw [h.1]
        · exact hs
        · exact hx
      · obtain ⟨e, he, hc⟩ := ih h.2.2 (Nat.not_lt.mp hx)
        exact ⟨e, List.mem_cons_of_mem _ he, hc⟩

/-- A purchase of the slots that follow extends the run of slots. -/
theorem Consecutive.append (h : Consecutive start es stop) (hk : e.1.toNat = stop)
    (hc : e.2.count ≠ 0) : Consecutive start (es ++ [e]) (stop + e.2.count.toNat) := by
  induction es generalizing start with
  | nil =>
      obtain rfl : start = stop := h
      exact ⟨hk, hc, rfl⟩
  | cons x rest ih => exact ⟨h.1, h.2.1, ih h.2.2⟩

/-- A ledger in order divides the sold slots. -/
theorem Consecutive.partitions {l : Ledger} {sold : Nat} (h : Consecutive 0 l.entries sold) :
    l.Partitions sold where
  positive _ he := h.positive he
  disjoint := by
    apply h.disjoint.imp
    intro a b hab n ⟨ha, hb⟩
    have := ha.2
    have := hb.1
    omega
  covered n := by
    constructor
    · intro hn
      exact h.exists_covers (Nat.zero_le _) hn
    · rintro ⟨e, he, hc⟩
      exact Nat.lt_of_lt_of_le hc.2 (h.bounds he).2

/-- A look-up by slot finds the purchase that covers the slot. -/
theorem Consecutive.floor?_eq {l : Ledger} {sold : Nat} (h : Consecutive 0 l.entries sold)
    {slot : Slot} (he : e ∈ l.entries) (hc : Covers e slot.toNat) : l.floor? slot = some e := by
  obtain ⟨before, later, hl⟩ := List.append_of_mem he
  have hlater : later.filter (fun x => compare x.1 slot != .gt) = [] := by
    have hpair := h.disjoint
    rw [hl, List.pairwise_append] at hpair
    rw [List.filter_eq_nil_iff]
    intro x hx
    have hx' := (List.pairwise_cons.mp hpair.2.1).1 x hx
    have hgt : slot < x.1 := UInt32.lt_iff_toNat_lt.mpr (Nat.lt_of_lt_of_le hc.2 hx')
    simp [compare_eq_gt.mpr hgt]
  have hself : compare e.1 slot ≠ .gt := by
    rw [Ne, compare_eq_gt, UInt32.lt_iff_toNat_lt]
    exact Nat.not_lt.mpr hc.1
  rw [Table.floor?, hl, List.filter_append, List.filter_cons_of_pos (by simpa using hself), hlater,
    List.getLast?_append_cons, List.getLast?_singleton]

/-- The purchase entered at the first unsold slot comes after all others. -/
theorem Consecutive.entries_insert {l : Ledger} {slot : Slot} {p : Purchase}
    (h : Consecutive 0 l.entries slot.toNat) :
    (l.insert slot p).entries = l.entries ++ [(slot, p)] := by
  apply Table.entries_insert_of_gt
  intro e he
  have hpos : e.2.count.toNat ≠ 0 := fun hz => h.positive he (UInt32.toNat_inj.mp hz)
  have := (h.bounds he).2
  rw [compare_eq_gt, UInt32.lt_iff_toNat_lt]
  omega

/-- A purchase entered at the first unsold slot adds to the tickets of its buyer. -/
theorem Consecutive.ticketsOf_insert {l : Ledger} {slot : Slot} {p : Purchase}
    (h : Consecutive 0 l.entries slot.toNat) (buyer : Address) :
    Ledger.ticketsOf (l.insert slot p) buyer =
      l.ticketsOf buyer + if p.buyer = buyer then p.count.toNat else 0 := by
  rw [ticketsOf, purchases, h.entries_insert]
  by_cases hb : p.buyer = buyer <;>
    simp [ticketsOf, purchases, tickets, List.filter_append, hb]

end Tombola.Ledger
