import Mathlib
import Tombola.Contract.Basic

/-!
# When an outcome is a success or an abort

Each way to build an outcome has one lemma that says when it succeeds. Rewriting with them turns an
operation of the contract into the list of what it has found. An outcome aborts where one of its
steps does, and nothing after that step counts. Two outcomes are compared step by step.
-/

namespace Tombola.Outcome

variable {ε α β : Type}

/-- Outcomes and all other results that may fail are opened in the same way. -/
theorem bind_eq_ok {x : Except ε α} {f : α → Except ε β} {b : β} :
    (x >>= f) = .ok b ↔ ∃ a, x = .ok a ∧ f a = .ok b := by
  cases x <;> simp [bind, Except.bind]

/-- A step that goes through and can be followed whatever it gives. -/
theorem exists_bind {x : Outcome α} {f : α → Outcome β} (hx : ∃ a, x = .ok a)
    (hf : ∀ a, ∃ b, f a = .ok b) : ∃ b, (x >>= f) = .ok b := by
  obtain ⟨a, rfl⟩ := hx
  exact hf a

/-- Two ways to go on that agree on what a step gives. -/
theorem bind_congr {x : Except ε α} {f g : α → Except ε β} (h : ∀ a, x = .ok a → f a = g a) :
    (x >>= f) = (x >>= g) := by
  cases x with
  | ok a => exact h a rfl
  | error fault => rfl

/-- A step that depends on a condition and is followed by the same rest. -/
theorem ite_bind_eq_ok {c : Prop} [Decidable c] {x y : Outcome α} {f : α → Outcome β} {b : β} :
    (if c then x >>= f else y >>= f) = .ok b ↔
      ∃ a, (if c then x else y) = .ok a ∧ f a = .ok b := by
  split <;> exact bind_eq_ok

/-- A check that is made only under a condition. -/
theorem when_bind_eq_ok {c : Prop} [Decidable c] {x : Outcome α} {check : α → Outcome Unit}
    {f : Unit → Outcome β} {b : β} :
    (if c then x >>= fun a => check a >>= f else f ()) = .ok b ↔
      (c → ∃ a, x = .ok a ∧ check a = .ok ()) ∧ f () = .ok b := by
  split
  · next hc =>
    simp only [bind_eq_ok, hc, true_imp_iff]
    constructor
    · rintro ⟨a, hx, _, hcheck, hf⟩
      exact ⟨⟨a, hx, hcheck⟩, hf⟩
    · rintro ⟨⟨a, hx, hcheck⟩, hf⟩
      exact ⟨a, hx, (), hcheck, hf⟩
  · next hc =>
    simp only [hc, false_imp_iff, true_and]

theorem pure_eq_ok {a b : α} : (pure a : Except ε α) = .ok b ↔ a = b := by
  simp [pure, Except.pure]

theorem map_eq_ok {x : Except ε α} {f : α → β} {b : β} :
    f <$> x = .ok b ↔ ∃ a, x = .ok a ∧ f a = b := by
  cases x <;> simp [Functor.map, Except.map]

theorem refuse_ne_ok {cause : Refusal} {a : α} : (refuse cause : Outcome α) ≠ .ok a := by
  simp [refuse]

theorem orRefuse_eq_ok {o : Option α} {cause : Refusal} {a : α} :
    orRefuse cause o = .ok a ↔ o = some a := by
  cases o <;> simp [orRefuse, refuse]

theorem orAbort_eq_ok {o : Option α} {a : α} : orAbort o = .ok a ↔ o = some a := by
  cases o <;> simp [orAbort]

theorem mapError_eq_ok {ε' : Type} {x : Except ε α} {f : ε → ε'} {a : α} :
    x.mapError f = .ok a ↔ x = .ok a := by
  cases x <;> simp [Except.mapError]

theorem ensure_eq_ok {condition : Bool} {cause : Refusal} {u : Unit} :
    ensure condition cause = .ok u ↔ condition = true := by
  cases condition <;> simp [ensure, refuse]

theorem ensure_true {cause : Refusal} : ensure true cause = .ok () := rfl

/-- Going through a list gives the results of its elements, in order. -/
theorem mapM_eq_ok {f : α → Outcome β} {as : List α} {bs : List β} :
    as.mapM f = .ok bs ↔ List.Forall₂ (fun a b => f a = .ok b) as bs := by
  induction as generalizing bs with
  | nil => rw [List.mapM_nil, pure_eq_ok, List.forall₂_nil_left_iff, eq_comm]
  | cons a as ih =>
      simp only [List.mapM_cons, bind_eq_ok, pure_eq_ok, ih, List.forall₂_cons_left_iff]
      constructor
      · rintro ⟨b, hb, rest, hrest, rfl⟩
        exact ⟨b, rest, hb, hrest, rfl⟩
      · rintro ⟨b, rest, hb, hrest, rfl⟩
        exact ⟨b, hb, rest, hrest, rfl⟩

/-- Going through a list succeeds when it does for each element. -/
theorem exists_mapM_eq_ok {f : α → Outcome β} {as : List α} (h : ∀ a ∈ as, ∃ b, f a = .ok b) :
    ∃ bs, as.mapM f = .ok bs := by
  induction as with
  | nil => exact ⟨[], rfl⟩
  | cons a as ih =>
      obtain ⟨b, hb⟩ := h a List.mem_cons_self
      obtain ⟨bs, hbs⟩ := ih fun a' ha' => h a' (List.mem_cons_of_mem _ ha')
      exact ⟨b :: bs, mapM_eq_ok.mpr (.cons hb (mapM_eq_ok.mp hbs))⟩

/-- Each result of going through a list is that of one of its elements. -/
theorem exists_of_mem_mapM {f : α → Outcome β} {as : List α} {bs : List β}
    (h : as.mapM f = .ok bs) {b : β} (hb : b ∈ bs) : ∃ a ∈ as, f a = .ok b := by
  rw [mapM_eq_ok] at h
  induction h with
  | nil => cases hb
  | cons hfirst _ ih =>
      rcases List.mem_cons.mp hb with rfl | hb
      · exact ⟨_, List.mem_cons_self, hfirst⟩
      · obtain ⟨a, ha, hf⟩ := ih hb
        exact ⟨a, List.mem_cons_of_mem _ ha, hf⟩

theorem ok_bind (a : α) (f : α → Outcome β) : ((.ok a : Outcome α) >>= f) = f a := rfl

theorem error_bind (fault : Fault) (f : α → Outcome β) :
    ((.error fault : Outcome α) >>= f) = .error fault := rfl

theorem bind_eq_aborted {x : Outcome α} {f : α → Outcome β} : (x >>= f) = .error .aborted ↔
    x = .error .aborted ∨ ∃ a, x = .ok a ∧ f a = .error .aborted := by
  cases x <;> simp [bind, Except.bind]

theorem orAbort_eq_aborted {o : Option α} : orAbort o = .error .aborted ↔ o = none := by
  cases o <;> simp [orAbort]

theorem orRefuse_ne_aborted {o : Option α} {cause : Refusal} :
    orRefuse cause o ≠ .error .aborted := by
  cases o <;> simp [orRefuse, refuse]

theorem ensure_ne_aborted {condition : Bool} {cause : Refusal} :
    ensure condition cause ≠ .error .aborted := by
  cases condition <;> simp [ensure, refuse]

theorem map_eq_aborted {x : Outcome α} {f : α → β} :
    f <$> x = .error .aborted ↔ x = .error .aborted := by
  cases x <;> simp [Functor.map, Except.map]

/-! ## Two outcomes side by side -/

variable {α' β' : Type} {R : α → α' → Prop} {Q : β → β' → Prop}

/-- Both outcomes fail in the same way, or both succeed and their results are related. -/
inductive Rel (R : α → α' → Prop) : Outcome α → Outcome α' → Prop
  | error (fault : Fault) : Rel R (.error fault) (.error fault)
  | ok {a : α} {a' : α'} (h : R a a') : Rel R (.ok a) (.ok a')

theorem Rel.exists_ok {a : α} {x : Outcome α'} (h : Rel R (.ok a) x) :
    ∃ a', x = .ok a' ∧ R a a' := by
  cases h with
  | ok h => exact ⟨_, rfl, h⟩

theorem Rel.bind {x : Outcome α} {x' : Outcome α'} {f : α → Outcome β} {f' : α' → Outcome β'}
    (hx : Rel R x x') (hf : ∀ a a', R a a' → Rel Q (f a) (f' a')) :
    Rel Q (x >>= f) (x' >>= f') := by
  cases hx with
  | error fault => exact .error fault
  | ok h => exact hf _ _ h

/-- The same step in both, and what comes after it. -/
theorem Rel.step (x : Outcome α) {f : α → Outcome β} {f' : α → Outcome β'}
    (hf : ∀ a, x = .ok a → Rel Q (f a) (f' a)) : Rel Q (x >>= f) (x >>= f') := by
  cases x with
  | ok a => exact hf a rfl
  | error fault => exact .error fault

/-- The same step and check in both, made only under a condition, and what comes after it. -/
theorem Rel.when {c : Prop} [Decidable c] (x : Outcome α) {check : α → Outcome Unit}
    {f : Unit → Outcome β} {f' : Unit → Outcome β'} (hf : ∀ u, Rel Q (f u) (f' u)) :
    Rel Q (if c then x >>= fun a => check a >>= f else f ())
      (if c then x >>= fun a => check a >>= f' else f' ()) := by
  split
  · exact .step x fun a _ => .step (check a) fun u _ => hf u
  · exact hf ()

end Tombola.Outcome
