import Tombola.Contract.Listing
import Tombola.Proofs.Outcome

/-!
# Pages that put a list together

A caller goes through a list in pages: each page is asked for with a limit, from where the page
before has ended. When each page is the start of what is left of the list, and what is left after it
is the rest, then the pages together are the start of the list, and all of it when there are enough
of them.
-/

namespace Tombola.Contract

variable {κ β : Type} {ask : Option κ → Option UInt32 → Outcome (List β)}
  {next : Option κ → List β → Option κ} {left : Option κ → List β}

/-- Asks for pages one after another, one for each limit. A page tells from where to ask for the
next one. -/
def pages (ask : Option κ → Option UInt32 → Outcome (List β))
    (next : Option κ → List β → Option κ) :
    Option κ → List (Option UInt32) → Outcome (List (List β))
  | _, [] => pure []
  | cursor, limit :: limits => do
    let page ← ask cursor limit
    let later ← pages ask next (next cursor page) limits
    pure (page :: later)

/-- How many entries the pages with some limits have room for together. -/
def roomFor (limits : List (Option UInt32)) : Nat := (limits.map pageSize).sum

/-- Each page is the start of what is left from its cursor on, and what is left after the page is
the rest. -/
structure Paged (ask : Option κ → Option UInt32 → Outcome (List β))
    (next : Option κ → List β → Option κ) (left : Option κ → List β) : Prop where
  page : ∀ cursor limit, ask cursor limit = .ok ((left cursor).take (pageSize limit))
  rest : ∀ cursor n, left (next cursor ((left cursor).take n)) = (left cursor).drop n

/-- Pages with whatever limits are the start of the list when put together, with nothing lost or
repeated. They are all of it when every one has room and there are as many as entries. -/
def Rebuilds (ask : Option κ → Option UInt32 → Outcome (List β))
    (next : Option κ → List β → Option κ) (cursor : Option κ) (whole : List β) : Prop :=
  ∀ limits, ∃ listed, pages ask next cursor limits = .ok listed ∧
    listed.flatten = whole.take (roomFor limits) ∧
    ((∀ limit ∈ limits, limit ≠ some 0) → whole.length ≤ limits.length → listed.flatten = whole)

theorem one_le_pageSize {limit : Option UInt32} (h : limit ≠ some 0) : 1 ≤ pageSize limit := by
  have hasked : (limit.getD defaultPage).toNat ≠ 0 := by
    cases limit with
    | none => decide
    | some n =>
        intro hz
        exact h (congrArg some (UInt32.toNat_inj.mp hz))
  have hmost : maxPage.toNat = 100 := rfl
  rw [pageSize, hmost]
  omega

/-- Pages with room for an entry each have room for as many entries as there are pages. -/
theorem length_le_roomFor {limits : List (Option UInt32)}
    (h : ∀ limit ∈ limits, limit ≠ some 0) : limits.length ≤ roomFor limits := by
  induction limits with
  | nil => simp
  | cons limit limits ih =>
      have hpage := one_le_pageSize (h limit List.mem_cons_self)
      have hpages := ih fun limit hlimit => h limit (List.mem_cons_of_mem _ hlimit)
      simp only [roomFor, List.map_cons, List.sum_cons, List.length_cons] at hpages ⊢
      omega

namespace Paged

/-- The pages together are the start of what is left. -/
theorem flatten_pages (h : Paged ask next left) (limits : List (Option UInt32))
    (cursor : Option κ) : ∃ listed, pages ask next cursor limits = .ok listed ∧
      listed.flatten = (left cursor).take (roomFor limits) := by
  induction limits generalizing cursor with
  | nil => exact ⟨[], rfl, by simp [roomFor]⟩
  | cons limit limits ih =>
      obtain ⟨later, hlater, hflatten⟩ := ih (next cursor ((left cursor).take (pageSize limit)))
      refine ⟨(left cursor).take (pageSize limit) :: later, ?_, ?_⟩
      · rw [pages, h.page, Outcome.ok_bind, hlater]
        rfl
      · rw [h.rest] at hflatten
        calc
          ((left cursor).take (pageSize limit) :: later).flatten
            = (left cursor).take (pageSize limit) ++
                ((left cursor).drop (pageSize limit)).take (roomFor limits) := by
              rw [List.flatten_cons, hflatten]
          _ = (left cursor).take (roomFor (limit :: limits)) := by
              rw [← List.take_add, roomFor, roomFor, List.map_cons, List.sum_cons]

theorem rebuilds (h : Paged ask next left) (cursor : Option κ) :
    Rebuilds ask next cursor (left cursor) := by
  intro limits
  obtain ⟨listed, hlisted, hflatten⟩ := h.flatten_pages limits cursor
  refine ⟨listed, hlisted, hflatten, ?_⟩
  intro hroom henough
  rw [hflatten]
  exact List.take_of_length_le (Nat.le_trans henough (length_le_roomFor hroom))

end Paged

end Tombola.Contract
