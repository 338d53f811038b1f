/-!
# Tables with ordered keys

A table is the list of its entries in strictly increasing key order. Reading in key order, from a
key on and up to a key are the main operations, so the list is kept as the view that everything
else is stated on: `get?_insert` and `get?_erase` say what a write does to a look-up, and
`mem_entries_iff` ties the look-up to the list.
-/

namespace Tombola

open Std

/-- Entries in strictly increasing key order. -/
structure Table (κ α : Type) [Ord κ] where
  entries : List (κ × α)
  ordered : entries.Pairwise fun a b => compare a.1 b.1 = .lt

namespace Table

variable {κ α : Type} [Ord κ]

theorem ext_entries {s t : Table κ α} (h : s.entries = t.entries) : s = t := by
  cases s; cases t; cases h; rfl

instance [DecidableEq κ] [DecidableEq α] : DecidableEq (Table κ α) := fun s t =>
  decidable_of_iff (s.entries = t.entries) ⟨ext_entries, fun h => h ▸ rfl⟩

/-- The table without entries. -/
def empty : Table κ α := ⟨[], .nil⟩

instance : EmptyCollection (Table κ α) := ⟨empty⟩

instance : Inhabited (Table κ α) := ⟨∅⟩

/-- There is no entry. -/
def isEmpty (t : Table κ α) : Bool := t.entries.isEmpty

/-- The keys in increasing order. -/
def keys (t : Table κ α) : List κ := t.entries.map (·.1)

/-- What is kept under a key. -/
def get? (t : Table κ α) (k : κ) : Option α :=
  (t.entries.find? fun e => compare k e.1 == .eq).map (·.2)

/-- The entries whose keys come after `start`; all of them when there is no start. -/
def after (t : Table κ α) : Option κ → List (κ × α)
  | none => t.entries
  | some start => t.entries.filter fun e => compare start e.1 == .lt

/-- The entries at `start` and after it. -/
def startingAt (t : Table κ α) (start : κ) : List (κ × α) :=
  t.entries.filter fun e => compare start e.1 != .gt

/-- The entry with the greatest key at or below `k`. -/
def floor? (t : Table κ α) (k : κ) : Option (κ × α) :=
  (t.entries.filter fun e => compare e.1 k != .gt).getLast?

/-- The table without the entry of a key. -/
def erase (t : Table κ α) (k : κ) : Table κ α where
  entries := t.entries.filter fun e => compare k e.1 != .eq
  ordered := t.ordered.filter _

/-- Puts `a` at its place among entries in key order, over an entry with the same key. -/
def insertEntry (k : κ) (a : α) : List (κ × α) → List (κ × α)
  | [] => [(k, a)]
  | e :: rest =>
    match compare k e.1 with
    | .lt => (k, a) :: e :: rest
    | .eq => (k, a) :: rest
    | .gt => e :: insertEntry k a rest

theorem mem_insertEntry {k : κ} {a : α} {l : List (κ × α)} {e : κ × α}
    (h : e ∈ insertEntry k a l) : e = (k, a) ∨ e ∈ l := by
  induction l with
  | nil => simpa [insertEntry] using h
  | cons x rest ih =>
    rw [insertEntry] at h
    split at h
    · simpa using h
    · rcases List.mem_cons.mp h with h | h
      · exact .inl h
      · exact .inr (List.mem_cons_of_mem _ h)
    · rcases List.mem_cons.mp h with h | h
      · exact .inr (h ▸ List.mem_cons_self)
      · exact (ih h).imp id (List.mem_cons_of_mem _)

theorem pairwise_insertEntry [TransOrd κ] [LawfulEqOrd κ] {k : κ} {a : α} {l : List (κ × α)}
    (h : l.Pairwise fun a b => compare a.1 b.1 = .lt) :
    (insertEntry k a l).Pairwise fun a b => compare a.1 b.1 = .lt := by
  induction l with
  | nil => simp [insertEntry]
  | cons x rest ih =>
    rw [List.pairwise_cons] at h
    rw [insertEntry]
    split
    · next hlt =>
      refine List.pairwise_cons.mpr ⟨fun e he => ?_, List.pairwise_cons.mpr h⟩
      rcases List.mem_cons.mp he with rfl | he
      · exact hlt
      · exact TransCmp.lt_trans hlt (h.1 e he)
    · next heq =>
      have hk : k = x.1 := LawfulEqCmp.eq_of_compare heq
      exact List.pairwise_cons.mpr ⟨fun e he => hk ▸ h.1 e he, h.2⟩
    · next hgt =>
      refine List.pairwise_cons.mpr ⟨fun e he => ?_, ih h.2⟩
      rcases mem_insertEntry he with rfl | he
      · exact OrientedCmp.gt_iff_lt.mp hgt
      · exact h.1 e he

theorem get?_empty (k : κ) : (∅ : Table κ α).get? k = none := rfl

/-- The table with `a` under `k`, in place of what was there. -/
def insert [TransOrd κ] [LawfulEqOrd κ] (t : Table κ α) (k : κ) (a : α) : Table κ α :=
  ⟨insertEntry k a t.entries, pairwise_insertEntry t.ordered⟩

variable [LawfulEqOrd κ]

theorem find?_insertEntry [DecidableEq κ] (k k' : κ) (a : α) (l : List (κ × α))
    (h : l.Pairwise fun a b => compare a.1 b.1 = .lt) :
    (insertEntry k a l).find? (fun e => compare k' e.1 == .eq) =
      if k' = k then some (k, a) else l.find? fun e => compare k' e.1 == .eq := by
  induction l with
  | nil => by_cases hk : k' = k <;> simp [insertEntry, hk]
  | cons x rest ih =>
    rw [List.pairwise_cons] at h
    rw [insertEntry]
    split
    · by_cases hk : k' = k <;> simp [hk]
    · next heq =>
      have hx : k = x.1 := LawfulEqCmp.eq_of_compare heq
      subst hx
      by_cases hk : k' = x.1 <;> simp [hk]
    · next hgt =>
      by_cases hx : k' = x.1
      · have hk : k' ≠ k := by
          rintro rfl
          simp [hx] at hgt
        simp [hx, hx ▸ hk]
      · rw [List.find?_cons_of_neg (by simpa using hx), ih h.2,
          List.find?_cons_of_neg (by simpa using hx)]

/-- A look-up after a write sees the written entry at its key and the old table elsewhere. -/
theorem get?_insert [TransOrd κ] [DecidableEq κ] (t : Table κ α) (k k' : κ) (a : α) :
    (t.insert k a).get? k' = if k' = k then some a else t.get? k' := by
  rw [get?, insert, find?_insertEntry k k' a t.entries t.ordered]
  by_cases h : k' = k <;> simp [h, get?]

/-- A look-up after a removal finds nothing at the removed key and the old table elsewhere. -/
theorem get?_erase [DecidableEq κ] (t : Table κ α) (k k' : κ) :
    (t.erase k).get? k' = if k' = k then none else t.get? k' := by
  rw [get?, erase, List.find?_filter]
  by_cases h : k' = k
  · subst h
    rw [if_pos rfl, Option.map_eq_none_iff, List.find?_eq_none]
    intro e _
    by_cases he : k' = e.1 <;> simp [he]
  · rw [if_neg h, get?]
    congr 2
    funext e
    by_cases he : k' = e.1
    · simpa [he] using fun hk : k = e.1 => h (he.trans hk.symm)
    · simp [he]

/-- The entries are exactly the pairs that a look-up confirms. -/
theorem mem_entries_iff (t : Table κ α) (k : κ) (a : α) :
    (k, a) ∈ t.entries ↔ t.get? k = some a := by
  obtain ⟨l, hl⟩ := t
  simp only [get?]
  induction l with
  | nil => simp
  | cons x rest ih =>
    rw [List.pairwise_cons] at hl
    by_cases hx : k = x.1
    · rw [List.find?_cons_of_pos (by simp [hx])]
      constructor
      · intro h
        rcases List.mem_cons.mp h with h | h
        · simp [← h]
        · have := hl.1 _ h
          simp [← hx] at this
      · rintro h
        obtain ⟨y, b⟩ := x
        obtain rfl : b = a := by simpa using h
        simp_all
    · rw [List.find?_cons_of_neg (by simpa using hx), ← ih hl.2, List.mem_cons]
      exact or_iff_right fun h => hx (by simp [← h])

end Table

end Tombola
