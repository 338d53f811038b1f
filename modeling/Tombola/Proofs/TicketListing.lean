import Tombola.Proofs.Books
import Tombola.Proofs.Paging

/-!
# The ticket listing agrees with the draw

The owner of a slot is found by looking back for the last purchase at or below it. The listing goes
forward from the purchase that covers its first slot and cuts the first and the last purchase to
what is asked for. Both read the same list of owners, one for each slot that is sold.
-/

namespace Tombola

open Contract Ledger Std

namespace Ledger

/-- The buyers of the slots of some purchases, in order. -/
def owners (es : List (Slot × Purchase)) : List Address :=
  es.flatMap fun e => List.replicate e.2.count.toNat e.2.buyer

variable {es : List (Slot × Purchase)} {start stop : Nat} {e : Slot × Purchase} {l : Ledger}

theorem owners_cons (e : Slot × Purchase) (es : List (Slot × Purchase)) :
    owners (e :: es) = List.replicate e.2.count.toNat e.2.buyer ++ owners es := rfl

theorem owners_append (xs ys : List (Slot × Purchase)) :
    owners (xs ++ ys) = owners xs ++ owners ys := List.flatMap_append

theorem Consecutive.length_owners (h : Consecutive start es stop) :
    start + (owners es).length = stop := by
  induction es generalizing start with
  | nil => exact h
  | cons x rest ih =>
      have hrest := ih h.2.2
      rw [owners_cons, List.length_append, List.length_replicate]
      omega

/-- Purchases that take consecutive slots can be cut at any of them. -/
theorem Consecutive.split {xs ys : List (Slot × Purchase)}
    (h : Consecutive start (xs ++ ys) stop) :
    ∃ middle, Consecutive start xs middle ∧ Consecutive middle ys stop := by
  induction xs generalizing start with
  | nil => exact ⟨start, rfl, h⟩
  | cons x rest ih =>
      obtain ⟨middle, hrest, hys⟩ := ih h.2.2
      exact ⟨middle, ⟨h.1, h.2.1, hrest⟩, hys⟩

/-- The purchases before one take the slots below it. -/
theorem Consecutive.cut (h : Consecutive 0 es stop) (he : e ∈ es) :
    ∃ before later, es = before ++ e :: later ∧ Consecutive 0 before e.1.toNat ∧
      Consecutive e.1.toNat (e :: later) stop := by
  obtain ⟨before, later, rfl⟩ := List.append_of_mem he
  obtain ⟨middle, hbefore, hlater⟩ := h.split
  obtain rfl : e.1.toNat = middle := hlater.1
  exact ⟨before, later, rfl, hbefore, hlater⟩

/-- The owner of a slot is the buyer of the purchase that covers it. -/
theorem Consecutive.owners_getElem? (h : Consecutive 0 es stop) (he : e ∈ es) {n : Nat}
    (hc : Covers e n) : (owners es)[n]? = some e.2.buyer := by
  obtain ⟨before, later, rfl, hbefore, _⟩ := h.cut he
  have hlength := hbefore.length_owners
  have hlow := hc.1
  have hhigh := hc.2
  rw [owners_append, owners_cons, List.getElem?_append_right (by omega),
    List.getElem?_append_left (by rw [List.length_replicate]; omega)]
  exact List.getElem?_replicate_of_lt (by omega)

theorem Consecutive.ownerOf?_eq (h : Consecutive 0 l.entries stop) {slot : Slot}
    (hslot : slot.toNat < stop) : l.ownerOf? slot = (owners l.entries)[slot.toNat]? := by
  obtain ⟨e, he, hc⟩ := h.exists_covers (Nat.zero_le _) hslot
  rw [ownerOf?, h.floor?_eq he hc, h.owners_getElem? he hc, Option.map_some]

theorem startingAt_zero (l : Ledger) : l.startingAt 0 = l.entries := by
  apply List.filter_eq_self.mpr
  intro x _
  rw [bne_iff_ne, Ne, compare_eq_gt, UInt32.lt_iff_toNat_lt]
  exact Nat.not_lt_zero _

/-- From the slot of a purchase on there are that purchase and those after it. -/
theorem startingAt_eq_cons {before later : List (Slot × Purchase)}
    (hl : l.entries = before ++ e :: later) (hbefore : Consecutive 0 before e.1.toNat)
    (hlater : Consecutive e.1.toNat (e :: later) stop) : l.startingAt e.1 = e :: later := by
  have hnone : before.filter (fun x => compare e.1 x.1 != .gt) = [] := by
    rw [List.filter_eq_nil_iff]
    intro x hx
    have hpos : x.2.count.toNat ≠ 0 := fun hz => hbefore.positive hx (UInt32.toNat_inj.mp hz)
    have hbound := (hbefore.bounds hx).2
    have hgt : compare e.1 x.1 = .gt := by
      rw [compare_eq_gt, UInt32.lt_iff_toNat_lt]
      omega
    rw [hgt]
    exact Bool.false_ne_true
  have hall : (e :: later).filter (fun x => compare e.1 x.1 != .gt) = e :: later := by
    apply List.filter_eq_self.mpr
    intro x hx
    rw [bne_iff_ne, Ne, compare_eq_gt, UInt32.lt_iff_toNat_lt]
    exact Nat.not_lt.mpr (hlater.bounds hx).1
  rw [Table.startingAt, hl, List.filter_append, hnone, hall, List.nil_append]

/-- From the purchase that covers a slot on, the slots before that slot apart, the owners are those
from the slot on. -/
theorem Consecutive.owners_from_covering (h : Consecutive 0 l.entries stop) (first : Slot) :
    ∃ start, Consecutive start (l.startingAt (l.covering first)) stop ∧
      (owners (l.startingAt (l.covering first))).drop (first.toNat - start) =
        (owners l.entries).drop first.toNat := by
  cases hfloor : l.floor? first with
  | none =>
      have hzero : l.covering first = 0 := by
        rw [covering, hfloor]
        rfl
      rw [hzero, startingAt_zero]
      exact ⟨0, h, rfl⟩
  | some e =>
      have hcovering : l.covering first = e.1 := by
        rw [covering, hfloor]
        rfl
      obtain ⟨he, hle⟩ := List.mem_filter.mp (List.mem_of_getLast? hfloor)
      rw [bne_iff_ne, Ne, compare_eq_gt, UInt32.lt_iff_toNat_lt, Nat.not_lt] at hle
      obtain ⟨before, later, hl, hbefore, hlater⟩ := h.cut he
      have hlength := hbefore.length_owners
      rw [hcovering, startingAt_eq_cons hl hbefore hlater, hl, owners_append, List.drop_append,
        List.drop_eq_nil_of_le (by omega), List.nil_append]
      refine ⟨e.1.toNat, hlater, ?_⟩
      congr 1
      omega

end Ledger

namespace Contract

/-- What is gathered from a slot on is cut from the owners of the purchases that are gone through,
when these take consecutive slots. -/
theorem gatherTickets_eq {es : List (Slot × Purchase)} {start stop : Nat} {first : Slot}
    (h : Consecutive start es stop) (hstop : stop < UInt32.size) (room : Nat) :
    gatherTickets first room es = .ok (((owners es).drop (first.toNat - start)).take room) := by
  -- The first slot stays where it is while the start moves over the purchases, so the slots to skip
  -- of the rest are those that this purchase leaves over.
  induction es generalizing start room with
  | nil => simp [gatherTickets, owners, Outcome.pure_eq_ok]
  | cons e rest ih =>
      obtain ⟨slot, p⟩ := e
      obtain ⟨hstart, _, hrest⟩ := h
      dsimp only at hstart hrest
      have hend := hrest.length_owners
      have hcount : slot.toNat + p.count.toNat - (max slot first).toNat =
          p.count.toNat - (first.toNat - start) := by
        rw [UInt32.toNat_max]
        omega
      have hskip : first.toNat - start - p.count.toNat =
          first.toNat - (start + p.count.toNat) := by
        omega
      rw [gatherTickets, if_pos (by omega), hcount, owners_cons, List.drop_append,
        List.drop_replicate, List.length_replicate, hskip, List.take_append, List.take_replicate,
        List.length_replicate]
      dsimp only
      split
      · next hroom =>
        rw [Nat.min_eq_left (by omega), Nat.sub_eq_zero_of_le (by omega), List.take_zero,
          List.append_nil]
        rfl
      · next hroom =>
        rw [ih hrest, Nat.min_eq_right (by omega)]
        rfl

/-- The number of the slot after a cursor; slots are counted from zero. -/
def slotAfter : Option Slot → Nat
  | none => 0
  | some slot => slot.toNat + 1

/-- The slot of the last ticket of a page that starts after a cursor; the cursor itself when the
page is empty. -/
def lastSlot (cursor : Option Slot) (page : List Address) : Option Slot :=
  if page.isEmpty then cursor else some (UInt32.ofNat (slotAfter cursor + page.length - 1))

variable {s : Store} {id : RaffleId} {sold : TicketCount}

/-- A page is cut from the owners of the slots after its cursor. -/
theorem reportTickets_eq (h : Consecutive 0 (s.ledger id).entries sold.toNat)
    (after : Option Slot) (limit : Option UInt32) : reportTickets s ⟨id, after, limit⟩ =
      .ok (((owners (s.ledger id).entries).drop (slotAfter after)).take (pageSize limit)) := by
  have hfrom (first : Slot) : gatherTickets first (pageSize limit)
      ((s.ledger id).startingAt ((s.ledger id).covering first)) =
        .ok (((owners (s.ledger id).entries).drop first.toNat).take (pageSize limit)) := by
    obtain ⟨start, hconsecutive, howners⟩ := h.owners_from_covering first
    rw [gatherTickets_eq hconsecutive sold.toNat_lt, howners]
  cases after with
  | none => exact hfrom 0
  | some slot =>
      rw [reportTickets]
      dsimp only
      by_cases hlast : slot.toNat + 1 < UInt32.size
      · have hnext : (slot + 1).toNat = slotAfter (some slot) := by
          rw [UInt32.toNat_add, UInt32.toNat_one, Nat.mod_eq_of_lt hlast]
          rfl
        rw [if_pos hlast, hfrom, hnext]
      · -- No slot comes after the greatest one, and it cannot be sold itself.
        have hlength := h.length_owners
        have hsold := sold.toNat_lt
        have hsize : UInt32.size = 4294967296 := rfl
        have hnothing : (owners (s.ledger id).entries).drop (slotAfter (some slot)) = [] := by
          apply List.drop_eq_nil_of_le
          simp only [slotAfter]
          omega
        rw [if_neg hlast, hnothing, List.take_nil]
        rfl

/-- Pages of tickets follow each other without a gap. -/
theorem reportTickets_paged (h : Consecutive 0 (s.ledger id).entries sold.toNat) :
    Paged (fun after limit => reportTickets s ⟨id, after, limit⟩) lastSlot
      fun after => (owners (s.ledger id).entries).drop (slotAfter after) where
  page := reportTickets_eq h
  rest after n := by
    have hlength := h.length_owners
    have hsold := sold.toNat_lt
    have hsize : UInt32.size = 4294967296 := rfl
    rw [lastSlot]
    split
    · next hempty =>
      rcases List.take_eq_nil_iff.mp (List.isEmpty_iff.mp hempty) with hn | hdrop
      · rw [hn, List.drop_zero]
      · rw [hdrop, List.drop_nil]
    · next hpage =>
      have hpos : 0 < (((owners (s.ledger id).entries).drop (slotAfter after)).take n).length :=
        List.length_pos_iff.mpr fun hnil => hpage (List.isEmpty_iff.mpr hnil)
      rw [List.length_take, List.length_drop] at hpos ⊢
      have hcursor : slotAfter (some (UInt32.ofNat (slotAfter after +
          min n ((owners (s.ledger id).entries).length - slotAfter after) - 1))) =
            slotAfter after + min n ((owners (s.ledger id).entries).length - slotAfter after) := by
        rw [slotAfter, UInt32.toNat_ofNat_of_lt' (by omega)]
        omega
      rw [hcursor, List.drop_drop]
      by_cases hn : n ≤ (owners (s.ledger id).entries).length - slotAfter after
      · rw [Nat.min_eq_left hn]
      · rw [List.drop_eq_nil_of_le (by omega), List.drop_eq_nil_of_le (by omega)]

end Contract

variable {now : Timestamp} {s : Store} {id : RaffleId} {r : Raffle}

/-- The list of the owners of all sold slots, as the draw looks them up, is what the ticket listing
pages through: a page starts at the slot after its cursor and is cut to its limit, and pages taken
one after another rebuild the list, wherever they cut a purchase. -/
theorem ticket_listing_agrees_with_draw (h : Reachable .forward now s)
    (hr : s.raffles.get? id = some r) (hb : r.Bounded) : ∃ owners,
      ((List.range r.sold.toNat).mapM fun slot => ticketOwner s id (UInt32.ofNat slot)) =
        .ok owners ∧
      ∀ after, (∀ limit, reportTickets s ⟨id, after, limit⟩ =
          .ok ((owners.drop (slotAfter after)).take (pageSize limit))) ∧
        Rebuilds (fun after limit => reportTickets s ⟨id, after, limit⟩) lastSlot after
          (owners.drop (slotAfter after)) := by
  have hconsecutive := ((h.accounted id).books hr (.inr hb)).consecutive
  have hlength : (owners (s.ledger id).entries).length = r.sold.toNat := by
    rw [← hconsecutive.length_owners, Nat.zero_add]
  refine ⟨owners (s.ledger id).entries, ?_, fun after =>
    ⟨reportTickets_eq hconsecutive after, (reportTickets_paged hconsecutive).rebuilds after⟩⟩
  rw [Outcome.mapM_eq_ok, List.forall₂_iff_get]
  refine ⟨by rw [List.length_range, hlength], ?_⟩
  intro n hn hn'
  have hslot : n < r.sold.toNat := hlength ▸ hn'
  have htoNat : (UInt32.ofNat n).toNat = n :=
    UInt32.toNat_ofNat_of_lt' (Nat.lt_trans hslot r.sold.toNat_lt)
  rw [List.get_eq_getElem, List.getElem_range, ticketOwner, Outcome.orRefuse_eq_ok,
    hconsecutive.ownerOf?_eq (by rw [htoNat]; exact hslot), htoNat, List.get_eq_getElem]
  exact List.getElem?_eq_getElem hn'

/-- The two tickets of the small run are listed on two pages of one ticket each. -/
theorem tickets_of_sample_listed : ∃ owners,
    ((List.range 2).mapM fun slot => ticketOwner Sample.sold 0 (UInt32.ofNat slot)) = .ok owners ∧
      reportTickets Sample.sold ⟨0, none, some 1⟩ = .ok (owners.take 1) ∧
      reportTickets Sample.sold ⟨0, some 0, some 1⟩ = .ok ((owners.drop 1).take 1) := by
  obtain ⟨r, hr, hsold, hb⟩ : ∃ r, Sample.sold.raffles.get? 0 = some r ∧ r.sold = 2 ∧ r.Bounded :=
    ⟨_, rfl, rfl, _, rfl, by decide⟩
  obtain ⟨owners, howners, hpages⟩ := ticket_listing_agrees_with_draw Sample.sold_reachable hr hb
  rw [hsold] at howners
  exact ⟨owners, howners, (hpages none).1 (some 1), (hpages (some 0)).1 (some 1)⟩

end Tombola
