import Tombola.Proofs.Change
import Tombola.Proofs.Table

/-!
# Raffles whose phase can not be told

A duration is checked against a least one only, so the closing time of a raffle can lie beyond the
last point in time. From its start on the phase of such a raffle can not be told: questions about it
and requests on it abort, and so it stays as it is for ever.
-/

namespace Tombola

open Contract

namespace Raffle

variable {r : Raffle} {now now' : Timestamp}

/-- The closing time lies beyond the last point in time. -/
def Overlong (r : Raffle) : Prop :=
  2 ^ 64 ≤ r.options.start.nanos.toNat + r.options.duration.toNat * Timestamp.nanosPerSecond

/-- A raffle that is not settled has started, and its closing time is out of range. -/
structure Stuck (now : Timestamp) (r : Raffle) : Prop where
  unsettled : r.Unsettled
  started : r.options.start ≤ now
  overlong : r.Overlong

theorem phase?_eq_none_iff_stuck : r.phase? now = none ↔ r.Stuck now := by
  rw [phase?_eq_none, closing?, Timestamp.addSeconds?_eq_none]
  constructor
  · rintro ⟨hr, hs, hc⟩
    exact ⟨hr, hs, hc⟩
  · rintro ⟨hr, hs, hc⟩
    exact ⟨hr, hs, hc⟩

theorem Stuck.phase? (h : r.Stuck now) : r.phase? now = none := phase?_eq_none_iff_stuck.mpr h

theorem Stuck.phase?_ne (h : r.Stuck now) (phase : Phase) : r.phase? now ≠ some phase := by
  rw [h.phase?]
  exact (Option.some_ne_none phase).symm

theorem Stuck.later (h : r.Stuck now) (hle : now ≤ now') : r.Stuck now' :=
  ⟨h.unsettled, le_trans h.started hle, h.overlong⟩

end Raffle

namespace Contract

open Outcome

variable {s : Store} {now : Timestamp} {id : RaffleId} {r : Raffle}

/-! ## Questions -/

theorem reportOf_aborts_iff : reportOf now id r = .error .aborted ↔ r.Stuck now := by
  rw [reportOf, bind_eq_aborted, orAbort_eq_aborted, Raffle.phase?_eq_none_iff_stuck]
  simp [pure, Except.pure]

theorem reportOf_eq_ok (id : RaffleId) (h : ¬r.Stuck now) :
    ∃ report, reportOf now id r = .ok report := by
  rw [← Raffle.phase?_eq_none_iff_stuck, Option.eq_none_iff_forall_ne_some, not_forall] at h
  obtain ⟨phase, h⟩ := h
  rw [not_not] at h
  exact ⟨⟨id, phase, some r⟩, by rw [reportOf, h]; rfl⟩

theorem reportRaffle_aborts_iff (hr : s.raffles.get? id = some r) :
    answer s now (.raffle id) = .error .aborted ↔ r.Stuck now := by
  rw [answer, map_eq_aborted, reportRaffle, Store.getRaffle, hr]
  exact reportOf_aborts_iff

/-- Without filters every candidate is listed until the page is full. -/
theorem gather_aborts_iff (entries : List (RaffleId × Raffle)) (room : Nat) :
    gather now .none room (entries.map fun e => (e.1, pure e.2)) = .error .aborted ↔
      ∃ e ∈ entries.take room, e.2.Stuck now := by
  induction entries generalizing room with
  | nil =>
      cases room <;> simp [gather, pure, Except.pure]
  | cons e rest ih =>
      cases room with
      | zero => simp [gather, pure, Except.pure]
      | succ room =>
          have hstep : gather now .none (room + 1) ((e :: rest).map fun e => (e.1, pure e.2)) =
              (do
                let report ← reportOf now e.1 e.2
                let reports ← gather now .none room (rest.map fun e => (e.1, pure e.2))
                pure (report :: reports)) := rfl
          rw [hstep, List.take_succ_cons]
          by_cases hstuck : e.2.Stuck now
          · rw [reportOf_aborts_iff.mpr hstuck]
            exact iff_of_true rfl ⟨e, List.mem_cons_self, hstuck⟩
          · obtain ⟨report, hreport⟩ := reportOf_eq_ok e.1 hstuck
            rw [hreport, ok_bind, bind_eq_aborted, ih]
            simp [pure, Except.pure, hstuck]

theorem listing_aborts_iff {page : RafflesPage} (hpage : page.filters = none) :
    answer s now (.raffles page) = .error .aborted ↔
      ∃ e ∈ (s.raffles.after page.after).take (pageSize page.limit), e.2.Stuck now := by
  rw [answer, map_eq_aborted, reportRaffles, hpage]
  exact gather_aborts_iff _ _

theorem passes_aborts {f : Filters} (h : passes now r f = .error .aborted) : r.Stuck now := by
  rcases bind_eq_aborted.mp h with h | ⟨inside, _, h⟩
  · unfold inPhases at h
    split at h
    · cases h
    · rcases bind_eq_aborted.mp h with h | ⟨_, _, h⟩
      · exact Raffle.phase?_eq_none_iff_stuck.mp (orAbort_eq_aborted.mp h)
      · cases h
  · cases inside <;> cases h

/-- Whatever the filters, a page aborts only over a candidate that is stuck. -/
theorem gather_aborts {f : Filters} {candidates : List (RaffleId × Outcome Raffle)} {room : Nat}
    (hcandidates : ∀ e ∈ candidates, e.2 ≠ .error .aborted)
    (h : gather now f room candidates = .error .aborted) :
    ∃ e ∈ candidates, ∃ r, e.2 = .ok r ∧ r.Stuck now := by
  induction candidates generalizing room with
  | nil => cases room <;> cases h
  | cons e rest ih =>
      obtain ⟨id, candidate⟩ := e
      have hrest : ∀ {room}, gather now f room rest = .error .aborted →
          ∃ e ∈ (id, candidate) :: rest, ∃ r, e.2 = .ok r ∧ r.Stuck now := by
        intro room h
        obtain ⟨e, he, hstuck⟩ := ih (fun e he => hcandidates e (List.mem_cons_of_mem _ he)) h
        exact ⟨e, List.mem_cons_of_mem _ he, hstuck⟩
      cases room with
      | zero => cases h
      | succ room =>
          rcases bind_eq_aborted.mp h with h | ⟨r, hr, h⟩
          · exact absurd h (hcandidates _ List.mem_cons_self)
          rcases bind_eq_aborted.mp h with h | ⟨listed, _, h⟩
          · exact ⟨_, List.mem_cons_self, r, hr, passes_aborts h⟩
          cases listed with
          | false => exact hrest h
          | true =>
              rcases bind_eq_aborted.mp h with h | ⟨_, _, h⟩
              · exact ⟨_, List.mem_cons_self, r, hr, reportOf_aborts_iff.mp h⟩
              rcases bind_eq_aborted.mp h with h | ⟨_, _, h⟩
              · exact hrest h
              · cases h

theorem validate_ne_aborted (a : Address) : a.validate ≠ .error .aborted := by
  rw [Address.validate]
  cases a.check <;> simp [Except.mapError]

theorem getRaffle_ne_aborted (s : Store) (id : RaffleId) : s.getRaffle id ≠ .error .aborted :=
  orRefuse_ne_aborted

/-- Every candidate that can be read is a stored raffle, and reading one never aborts. -/
theorem candidates_stored {after : Option RaffleId} {f : Filters}
    {found : List (RaffleId × Outcome Raffle)} (h : candidates s after f = .ok found) :
    ∀ e ∈ found, e.2 ≠ .error .aborted ∧ ∀ r, e.2 = .ok r → s.raffles.get? e.1 = some r := by
  unfold candidates at h
  split at h
  · obtain rfl := pure_eq_ok.mp h
    intro e he
    obtain ⟨entry, hentry, rfl⟩ := List.mem_map.mp he
    refine ⟨nofun, fun r hr => ?_⟩
    obtain rfl := pure_eq_ok.mp hr
    exact Table.get?_of_mem_after hentry
  · obtain ⟨buyer, _, h⟩ := bind_eq_ok.mp h
    obtain rfl := pure_eq_ok.mp h
    intro e he
    obtain ⟨entry, _, rfl⟩ := List.mem_map.mp he
    exact ⟨getRaffle_ne_aborted s _, fun r hr => orRefuse_eq_ok.mp hr⟩

theorem candidates_ne_aborted (after : Option RaffleId) (f : Filters) :
    candidates s after f ≠ .error .aborted := by
  unfold candidates
  split
  · nofun
  · intro h
    rcases bind_eq_aborted.mp h with h | ⟨_, _, h⟩
    · exact validate_ne_aborted _ h
    · cases h

/-- A page aborts only when a stored raffle is stuck. -/
theorem listing_aborts {page : RafflesPage}
    (h : answer s now (.raffles page) = .error .aborted) :
    ∃ id r, s.raffles.get? id = some r ∧ r.Stuck now := by
  rw [answer, map_eq_aborted, reportRaffles] at h
  rcases bind_eq_aborted.mp h with h | ⟨found, hfound, h⟩
  · exact absurd h (candidates_ne_aborted _ _)
  obtain ⟨e, he, r, hr, hstuck⟩ :=
    gather_aborts (fun e he => (candidates_stored hfound e he).1) h
  exact ⟨e.1, r, (candidates_stored hfound e he).2 r hr, hstuck⟩

/-! ## Requests -/

theorem ensurePhase_of_stuck (h : r.Stuck now) (phase : Phase) (action : Action) :
    ensurePhase r now phase action = .error .aborted := by
  rw [ensurePhase, h.phase?]
  rfl

/-- Each request of a caller on a raffle aborts, once it has passed what is looked at before the
phase. -/
structure RequestsAbort (s : Store) (env : Surroundings) (caller : Caller) (config : Config)
    (id : RaffleId) (r : Raffle) : Prop where
  determineWinner : execute s env caller (.determineWinner id) = .error .aborted
  claim : execute s env caller (.claim id) = .error .aborted
  cancel : caller.address = r.owner → execute s env caller (.cancel id) = .error .aborted
  modify : ∀ m : ModifyRequest, m.raffle = id → caller.address = r.owner →
    execute s env caller (.modify m) = .error .aborted
  buy : ∀ b : BuyRequest, b.raffle = id → config.locks.locked = false →
    execute s env caller (.buy b) = .error .aborted
  updateRandomness : caller.address = config.owner →
    execute s env caller (.updateRandomness id) = .error .aborted
  receiveRandomness : ∀ a job, s.jobs.get? a.job = some job → job.raffle = id →
    caller.address = config.oracle →
    execute s env caller (.receiveRandomness a) = .error .aborted

theorem requests_abort_of_stuck {env : Surroundings} {config : Config}
    (hconfig : s.config = some config) (hr : s.raffles.get? id = some r) (h : r.Stuck env.now)
    (caller : Caller) : RequestsAbort s env caller config id r := by
  have hensure : ∀ {condition : Bool} {cause : Refusal}, condition = true →
      ensure condition cause = .ok () := fun hc => ensure_eq_ok.mpr hc
  constructor
  case determineWinner =>
    simp only [execute, determineWinner, Store.getConfig_of hconfig, Store.getRaffle_of hr, ok_bind,
      ensurePhase_of_stuck h, error_bind]
  case claim =>
    simp only [execute, claim, Store.getConfig_of hconfig, Store.getRaffle_of hr, ok_bind,
      ensurePhase_of_stuck h, error_bind]
  case cancel =>
    intro howner
    simp only [execute, cancel, ownedRaffle_eq_ok.mpr ⟨hr, howner⟩, ok_bind, ensureCancellable,
      h.phase?, orAbort, error_bind]
  case modify =>
    rintro m rfl howner
    simp only [execute, Contract.modify, ownedRaffle_eq_ok.mpr ⟨hr, howner⟩,
      Store.getConfig_of hconfig, ok_bind, ensurePhase_of_stuck h, error_bind]
  case buy =>
    rintro b rfl hlocked
    simp only [execute, buy, Store.getConfig_of hconfig, Store.getRaffle_of hr, ok_bind, hlocked,
      Bool.not_false, hensure, ensurePhase_of_stuck h, error_bind]
  case updateRandomness =>
    intro howner
    simp only [execute, updateRandomness, Store.getConfig_of hconfig, Store.getRaffle_of hr,
      ok_bind, howner, decide_true, hensure, ensurePhase_of_stuck h, error_bind]
  case receiveRandomness =>
    rintro a job hjob rfl horacle
    simp only [execute, receiveRandomness, Store.getConfig_of hconfig, Store.getRaffle_of hr,
      ok_bind, horacle, hjob, orRefuse, decide_true, hensure, ensurePhase_of_stuck h, error_bind]

end Contract

variable {s s' : Store} {now now' now₀ : Timestamp} {id : RaffleId} {r : Raffle} {steps : List Step}

/-- The phase of a stored raffle can not be told exactly when the raffle is stuck: neither cancelled
nor claimed, started, and with a closing time beyond the last point in time. Then, and only then,
the question about it and the pages that list it abort, and so does each request on it. A page with
filters aborts over no other raffle. -/
theorem aborts_iff_stuck (h : Reachable .free now₀ s) (hr : s.raffles.get? id = some r)
    (now : Timestamp) :
    (r.phase? now = none ↔ r.Stuck now) ∧
      (answer s now (.raffle id) = .error .aborted ↔ r.Stuck now) ∧
      (∀ page : RafflesPage, page.filters = none →
        (answer s now (.raffles page) = .error .aborted ↔
          ∃ e ∈ (s.raffles.after page.after).take (pageSize page.limit), e.2.Stuck now)) ∧
      (∀ page : RafflesPage, answer s now (.raffles page) = .error .aborted →
        ∃ id r, s.raffles.get? id = some r ∧ r.Stuck now) ∧
      ∃ config, s.config = some config ∧
        ∀ env caller, env.now = now → r.Stuck now → RequestsAbort s env caller config id r := by
  obtain ⟨config, hconfig⟩ := h.configured
  refine ⟨Raffle.phase?_eq_none_iff_stuck, reportRaffle_aborts_iff hr,
    fun page hpage => listing_aborts_iff hpage, fun page => listing_aborts, config, hconfig, ?_⟩
  rintro env caller rfl hstuck
  exact requests_abort_of_stuck hconfig hr hstuck caller

namespace Sample

/-- The greatest duration is accepted when no randomness is asked for at once. -/
def overlong : Turn := .execute (env 5) ⟨"owner", [coin 7 "uprize"]⟩ (.create { raffle with
  options := { OptionsRequest.empty with duration := some 18446744073709551615 }
  autocycle := none })

theorem overlong_reachable : Reachable .free ⟨5⟩ (overlong.after setUp) :=
  ⟨⟨"owner", []⟩, setting, setUp, _, ⟨5⟩, _, rfl, .turn overlong .start trivial⟩

end Sample

theorem sample_aborts : ∃ r, (Sample.overlong.after Sample.setUp).raffles.get? 0 = some r ∧
    r.phase? ⟨5⟩ = none ∧
    answer (Sample.overlong.after Sample.setUp) ⟨5⟩ (.raffle 0) = .error .aborted ∧
    answer (Sample.overlong.after Sample.setUp) ⟨5⟩ (.raffles ⟨none, none, none⟩) =
      .error .aborted ∧
    execute (Sample.overlong.after Sample.setUp) (Sample.env 5) ⟨"anyone", []⟩
      (.determineWinner 0) = .error .aborted := by
  obtain ⟨r, hr, hunsettled, hstart, hduration⟩ :
      ∃ r, (Sample.overlong.after Sample.setUp).raffles.get? 0 = some r ∧ r.Unsettled ∧
        r.options.start = ⟨5⟩ ∧ r.options.duration = 18446744073709551615 :=
    ⟨_, rfl, ⟨rfl, rfl⟩, rfl, rfl⟩
  have hstuck : r.Stuck ⟨5⟩ := by
    refine ⟨hunsettled, le_of_eq hstart, ?_⟩
    rw [Raffle.Overlong, hstart, hduration]
    decide
  obtain ⟨hphase, hraffle, hlisting, _, config, _, hrequests⟩ :=
    aborts_iff_stuck Sample.overlong_reachable hr ⟨5⟩
  have hpage : ((Sample.overlong.after Sample.setUp).raffles.after none).take (pageSize none) =
      (Sample.overlong.after Sample.setUp).raffles.entries := rfl
  have hmem : (0, r) ∈ (Sample.overlong.after Sample.setUp).raffles.entries :=
    (Table.mem_entries_iff _ _ _).mpr hr
  exact ⟨r, hr, hphase.mpr hstuck, hraffle.mpr hstuck,
    (hlisting ⟨none, none, none⟩ rfl).mpr ⟨(0, r), hpage ▸ hmem, hstuck⟩,
    (hrequests (Sample.env 5) ⟨"anyone", []⟩ rfl hstuck).determineWinner⟩

/-- No change touches the record of a stuck raffle. -/
theorem Change.keeps_stuck {t : Turn} {focus : Option RaffleId} (hc : Change s t focus s')
    (hr : s.raffles.get? id = some r) (h : r.Stuck t.now) : s'.raffles.get? id = some r := by
  cases hc.raffle id with
  | same raffle _ _ => rw [raffle, hr]
  | entered hnew _ _ _ => exact absurd hr (hnew.ne_some r)
  | revised kept hrev _ _ _ =>
      obtain rfl := Option.some.inj (hr.symm.trans kept)
      obtain ⟨phase, hphase⟩ := hrev.phase?
      exact absurd hphase (h.phase?_ne phase)
  | sold hsale =>
      obtain rfl := Option.some.inj (hr.symm.trans hsale.kept)
      exact absurd hsale.started (h.phase?_ne .started)

/-- Once a raffle is stuck no later step changes it: what it holds is never handed out. -/
theorem stuck_raffle_never_changes (hrun : Run .forward now s steps now' s')
    (hr : s.raffles.get? id = some r) (h : r.Stuck now) :
    s'.raffles.get? id = some r ∧ r.Stuck now' := by
  refine hrun.keeps (P := fun now s => s.raffles.get? id = some r ∧ r.Stuck now) ?_ ?_ ⟨hr, h⟩
  · rintro now now' s hle ⟨hr, h⟩
    exact ⟨hr, h.later hle⟩
  · rintro t s s' focus ⟨hr, h⟩ hc
    exact ⟨hc.keeps_stuck hr h, h⟩

end Tombola
