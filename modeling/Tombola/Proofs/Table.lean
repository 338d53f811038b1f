import Mathlib
import Tombola.Table

/-!
# Sums over a table and writes at its end

A write changes a sum over the entries by the new entry less the one that it replaces. A write at a
key above all others adds an entry at the end.
-/

namespace Tombola.Table

open Std

variable {κ α : Type} [Ord κ]

/-- The sum of a measure over the entries. -/
def total (t : Table κ α) (f : α → Nat) : Nat := (t.entries.map fun e => f e.2).sum

theorem find?_eq_none_of_lt {k : κ} {l : List (κ × α)} (h : ∀ e ∈ l, compare k e.1 = .lt) :
    (l.find? fun e => compare k e.1 == .eq) = none := by
  rw [List.find?_eq_none]
  intro e he
  simp [h e he]

theorem sum_insertEntry [TransOrd κ] (f : α → Nat) (k : κ) (a : α) {l : List (κ × α)}
    (h : l.Pairwise fun a b => compare a.1 b.1 = .lt) :
    ((insertEntry k a l).map fun e => f e.2).sum +
        (((l.find? fun e => compare k e.1 == .eq).map fun e => f e.2).getD 0) =
      (l.map fun e => f e.2).sum + f a := by
  induction l with
  | nil => simp [insertEntry]
  | cons x rest ih =>
      rw [List.pairwise_cons] at h
      rw [insertEntry]
      split
      · next hlt =>
        have hnone : ((x :: rest).find? fun e => compare k e.1 == .eq) = none := by
          apply find?_eq_none_of_lt
          intro e he
          rcases List.mem_cons.mp he with rfl | he
          · exact hlt
          · exact TransCmp.lt_trans hlt (h.1 e he)
        rw [hnone]
        simp [Nat.add_comm]
      · next heq =>
        rw [List.find?_cons_of_pos (by simp [heq])]
        simp only [List.map_cons, List.sum_cons, Option.map_some, Option.getD_some]
        omega
      · next hgt =>
        rw [List.find?_cons_of_neg (by simp [hgt])]
        simp only [List.map_cons, List.sum_cons]
        have := ih h.2
        omega

variable [TransOrd κ] [LawfulEqOrd κ]

/-- A write adds what the new entry measures and drops what the replaced one did. -/
theorem total_insert (t : Table κ α) (f : α → Nat) (k : κ) (a : α) :
    (t.insert k a).total f + ((t.get? k).map f).getD 0 = t.total f + f a := by
  rw [total, total, insert, get?, Option.map_map]
  exact sum_insertEntry f k a t.ordered

omit [TransOrd κ] [LawfulEqOrd κ] in
theorem insertEntry_of_gt {k : κ} {a : α} {l : List (κ × α)} (h : ∀ e ∈ l, compare k e.1 = .gt) :
    insertEntry k a l = l ++ [(k, a)] := by
  induction l with
  | nil => rfl
  | cons x rest ih =>
      rw [insertEntry, h x List.mem_cons_self]
      exact congrArg (x :: ·) (ih fun e he => h e (List.mem_cons_of_mem _ he))

/-- A write at a key above all others goes to the end. -/
theorem entries_insert_of_gt {t : Table κ α} {k : κ} {a : α}
    (h : ∀ e ∈ t.entries, compare k e.1 = .gt) :
    (t.insert k a).entries = t.entries ++ [(k, a)] := insertEntry_of_gt h

omit [TransOrd κ] in
/-- At or above a key that is kept, something is found at or below. -/
theorem exists_floor? {t : Table κ α} {k bound : κ} {a : α} (h : t.get? k = some a)
    (hle : compare k bound ≠ .gt) : ∃ e, t.floor? bound = some e := by
  rw [floor?, ← Option.isSome_iff_exists, List.getLast?_isSome]
  apply List.ne_nil_of_mem
  exact List.mem_filter.mpr ⟨(mem_entries_iff t k a).mpr h, bne_iff_ne.mpr hle⟩

omit [TransOrd κ] in
/-- A sum over the entries to which only one key adds anything. -/
theorem sum_entries_of_focus {t : Table κ α} {k : κ} {a : α}
    (h : t.get? k = some a) (f : κ → α → Nat)
    (hrest : ∀ k' a', t.get? k' = some a' → k' ≠ k → f k' a' = 0) :
    (t.entries.map fun e => f e.1 e.2).sum = f k a := by
  classical
  have hnodup : t.entries.Nodup := by
    apply t.ordered.imp
    rintro x _ hlt rfl
    rw [compare_self] at hlt
    cases hlt
  have hmem : (k, a) ∈ t.entries := (mem_entries_iff t k a).mpr h
  have hother : ∀ e, e ≠ (k, a) → e ∈ t.entries → f e.1 e.2 = 0 := by
    rintro ⟨k', a'⟩ hne he
    have hget := (mem_entries_iff t k' a').mp he
    apply hrest k' a' hget
    rintro rfl
    rw [Option.some.inj (h.symm.trans hget)] at hne
    exact hne rfl
  rw [List.sum_map_eq_nsmul_single (k, a) (fun e => f e.1 e.2) hother]
  have hcount := @List.count_eq_one_of_mem _ instBEqOfDecidableEq _ (k, a) t.entries hnodup hmem
  rw [hcount, one_nsmul]

omit [TransOrd κ] in
/-- What is listed after a key is what is kept at greater keys. -/
theorem mem_after_iff {t : Table κ α} {start : Option κ} {e : κ × α} : e ∈ t.after start ↔
    t.get? e.1 = some e.2 ∧ ∀ k, start = some k → compare k e.1 = .lt := by
  rw [← mem_entries_iff]
  cases start with
  | none => simp [after]
  | some k => simp [after, List.mem_filter]

omit [TransOrd κ] in
/-- What is listed from a key on is kept. -/
theorem get?_of_mem_after {t : Table κ α} {start : Option κ} {e : κ × α} (he : e ∈ t.after start) :
    t.get? e.1 = some e.2 := (mem_after_iff.mp he).1

omit [TransOrd κ] [LawfulEqOrd κ] in
theorem ordered_after (t : Table κ α) (start : Option κ) :
    (t.after start).Pairwise fun a b => compare a.1 b.1 = .lt := by
  cases start with
  | none => exact t.ordered
  | some k => exact t.ordered.filter _

/-- Two lists in strict order with the same elements are the same. -/
theorem eq_of_ascending {β : Type} {lt : β → β → Prop} (asymm : ∀ {a b}, lt a b → ¬lt b a)
    {xs ys : List β} (hx : xs.Pairwise lt) (hy : ys.Pairwise lt) (h : ∀ a, a ∈ xs ↔ a ∈ ys) :
    xs = ys := by
  have hnodup {zs : List β} (hz : zs.Pairwise lt) : zs.Nodup := by
    apply hz.imp
    rintro a _ hlt rfl
    exact asymm hlt hlt
  apply List.Perm.eq_of_pairwise (fun a b _ _ hab hba => absurd hba (asymm hab)) hx hy
  exact (List.perm_ext_iff_of_nodup (hnodup hx) (hnodup hy)).mpr h

end Tombola.Table
