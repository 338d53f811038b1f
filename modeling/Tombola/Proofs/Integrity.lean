import Tombola.Chain.Basic
import Tombola.Proofs.Refusals

/-!
# The store never contradicts itself

Raffles are numbered without gaps, every entry of the store is one of a stored raffle, and the job
that a raffle waits for is kept. So no call is ever refused for a store that contradicts itself, and
a list of raffles is refused only for an address that is not valid.
-/

namespace Tombola

open Contract Outcome

/-! ## Questions -/

namespace Contract

open RefusesOnly

variable {s : Store} {now : Timestamp} {allowed : Refusal → Prop}

/-- A page is refused for its candidates only. -/
theorem gather_refusesOnly (f : Filters) {candidates : List (RaffleId × Outcome Raffle)}
    (room : Nat) (h : ∀ e ∈ candidates, e.2.RefusesOnly allowed) :
    (gather now f room candidates).RefusesOnly allowed := by
  have hphase (r : Raffle) (f : Filters) : (inPhases now r f).RefusesOnly allowed := by
    unfold inPhases
    split
    · exact of_pure true
    · exact (of_orAbort _).next fun _ => of_pure _
  have hpasses (r : Raffle) (f : Filters) : (passes now r f).RefusesOnly allowed := by
    refine (hphase r f).next fun inside => ?_
    cases inside with
    | true => exact of_pure _
    | false => exact of_pure _
  induction candidates generalizing room with
  | nil => cases room <;> exact of_pure []
  | cons e rest ih =>
      have hrest := fun room => ih room fun e he => h e (List.mem_cons_of_mem _ he)
      cases room with
      | zero => exact of_pure []
      | succ room =>
          refine (h e List.mem_cons_self).next fun raffle => ?_
          refine (hpasses raffle f).next fun listed => ?_
          cases listed with
          | true =>
              refine RefusesOnly.next ((of_orAbort _).next fun _ => of_pure _) fun report => ?_
              exact (hrest room).next fun _ => of_pure _
          | false => exact hrest (room + 1)

/-- When every entry is one of a stored raffle, a list of raffles is refused only for the address of
a buyer. -/
theorem reportRaffles_refusesOnly (hs : ∀ id, s.Mentions id → (s.raffles.get? id).isSome)
    (page : RafflesPage) :
    (reportRaffles s now page).RefusesOnly fun cause => ∃ flaw, cause = .invalidAddress flaw := by
  refine RefusesOnly.bind ?_ fun found hfound => gather_refusesOnly _ _ ?_
  · unfold candidates
    split
    · exact of_pure _
    · next buyer _ =>
      exact RefusesOnly.next (of_mapError fun flaw _ => ⟨flaw, rfl⟩) fun _ => of_pure _
  · unfold candidates at hfound
    split at hfound
    · obtain rfl := pure_eq_ok.mp hfound
      intro e he
      obtain ⟨entry, _, rfl⟩ := List.mem_map.mp he
      exact of_pure entry.2
    · obtain ⟨buyer, _, hfound⟩ := bind_eq_ok.mp hfound
      obtain rfl := pure_eq_ok.mp hfound
      intro e he
      obtain ⟨entry, hentry, rfl⟩ := List.mem_map.mp he
      have hstored := hs entry.1 (.holding (Table.get?_of_mem_after hentry))
      obtain ⟨r, hr⟩ := Option.isSome_iff_exists.mp hstored
      rw [Store.getRaffle_of hr]
      exact of_ok r

theorem gatherTickets_refusesOnly (first : Slot) (room : Nat) (entries : List (Slot × Purchase)) :
    (gatherTickets first room entries).RefusesOnly allowed := by
  induction entries generalizing room with
  | nil => exact of_pure []
  | cons e rest ih =>
      unfold gatherTickets
      dsimp only
      split
      · split
        · exact of_pure _
        · exact (ih _).next fun _ => of_pure _
      · exact of_aborted

theorem answer_blameless (hs : ∀ id, s.Mentions id → (s.raffles.get? id).isSome)
    (question : Question) : (answer s now question).Blameless := by
  cases question with
  | config => exact RefusesOnly.map ((getConfig_blameless s).next fun _ => of_pure _) _
  | raffle id =>
      refine RefusesOnly.map ?_ _
      refine (getRaffle_blameless s id).next fun r => ?_
      exact (of_orAbort _).next fun _ => of_pure _
  | raffles page =>
      refine RefusesOnly.map ?_ _
      intro cause h
      obtain ⟨flaw, rfl⟩ := reportRaffles_refusesOnly hs page cause h
      exact not_false
  | tickets page =>
      refine RefusesOnly.map ?_ _
      unfold reportTickets
      dsimp only
      split
      · exact gatherTickets_refusesOnly _ _ _
      · split
        · exact gatherTickets_refusesOnly _ _ _
        · exact of_pure []
  | ticketCount buyer id =>
      exact RefusesOnly.map ((validate_blameless buyer).next fun _ => of_pure _) _

end Contract

/-! ## Calls -/

/-- Questions that a turn asks of collections fail in the ways that such questions do. -/
def Turn.Answering : Turn → Prop
  | .execute env _ _ => env.Answering
  | .govern _ _ => True
  | .migrate _ => True

/-- A chain answers for the collections on it. -/
theorem Chain.surroundings_answering (c : Chain) : c.surroundings.Answering := by
  intro contract token cause h
  change c.ownerOf contract token = .error cause at h
  unfold Chain.ownerOf at h
  split at h
  · exact .inr ⟨_, (Except.error.inj h).symm⟩
  · split at h
    · split at h
      · cases h
      · exact .inr ⟨_, (Except.error.inj h).symm⟩
    · exact .inr ⟨_, (Except.error.inj h).symm⟩
    · exact .inr ⟨_, (Except.error.inj h).symm⟩
    · exact .inr ⟨_, (Except.error.inj h).symm⟩

variable {clock : Clock} {now : Timestamp} {s : Store}

theorem Turn.blameless (h : Reachable clock now s) {t : Turn} (ht : t.Answering) :
    (t.outcome s).Blameless := by
  cases t with
  | execute env caller request =>
      cases request with
      | create r => exact create_blameless h.numbered ht caller r
      | cancel id => exact cancel_blameless s env caller id
      | updateConfig r => exact updateConfig_blameless s caller r
      | modify r => exact modify_blameless h.matched env caller r
      | buy r => exact buy_blameless s env caller r
      | deposit d => exact deposit_blameless h.numbered env caller d
      | determineWinner id => exact determineWinner_blameless h.matched env caller id
      | receiveRandomness answer => exact receiveRandomness_blameless h.opened env caller answer
      | claim id => exact claim_blameless s env id
      | setLock lock => exact setLock_blameless s caller lock
      | updateRandomness id => exact updateRandomness_blameless h.matched env caller id
  | govern now request => exact govern_blameless s request
  | migrate now => exact RefusesOnly.of_ok _

/-- The stored raffles are those from zero to the last, none when there is no last one, every entry
of the store is one of a stored raffle, and the job that a raffle waits for is kept as one of that
raffle. So no call is refused for a store that contradicts itself, whoever makes it with whatever
funds at whatever time, and no list of raffles for a raffle that is missing. -/
theorem store_consistent_and_never_blamed (h : Reachable clock now s) :
    (∃ config, s.config = some config ∧ ∀ id, (∃ r, s.raffles.get? id = some r) ↔
      ∃ last, config.lastRaffle = some last ∧ id ≤ last) ∧
    (∀ id, s.Mentions id → ∃ r, s.raffles.get? id = some r) ∧
    (∀ id j, s.awaited.get? id = some j → ∃ job, s.jobs.get? j = some job ∧ job.raffle = id) ∧
    (∀ t : Turn, t.Answering → ∀ cause, t.outcome s = .error (.refused cause) →
      ¬cause.BlamesStore) ∧
    (∀ s₀ caller request cause, setup s₀ caller request = .error (.refused cause) →
      ¬cause.BlamesStore) ∧
    (∀ now question cause, answer s now question = .error (.refused cause) →
      ¬cause.BlamesStore) ∧
    ∀ now page cause, answer s now (.raffles page) = .error (.refused cause) →
      ∃ flaw, cause = .invalidAddress flaw := by
  have hmentions := fun id (hm : s.Mentions id) => h.stored_of_mentions hm
  refine ⟨?_, ?_, ?_, fun t ht => Turn.blameless h ht, setup_blameless, ?_, ?_⟩
  · obtain ⟨config, hconfig⟩ := h.configured
    refine ⟨config, hconfig, fun id => ?_⟩
    rw [← Option.isSome_iff_exists, h.numbered id, Store.last?_of hconfig]
  · intro id hm
    exact Option.isSome_iff_exists.mp (hmentions id hm)
  · intro id j hj
    exact h.matched.awaited_iff.mp hj
  · intro now question
    exact answer_blameless hmentions question
  · intro now page
    exact RefusesOnly.map (reportRaffles_refusesOnly hmentions page) _

/-- In the small run the raffle with the id zero is the only one. Its buyer's purchase is one of a
stored raffle, and nothing that is asked on a chain blames the store. -/
theorem sample_consistent_and_never_blamed :
    (∀ id, (∃ r, Sample.sold.raffles.get? id = some r) ↔ id ≤ 0) ∧
    (∃ r, Sample.sold.raffles.get? 0 = some r) ∧
    ∀ (c : Chain) caller request cause,
      execute Sample.sold c.surroundings caller request = .error (.refused cause) →
        ¬cause.BlamesStore := by
  obtain ⟨⟨config, hconfig, hnumbers⟩, hmentions, _, hcalls, _⟩ :=
    store_consistent_and_never_blamed Sample.sold_reachable
  obtain ⟨config', hconfig', hlast⟩ : ∃ config, Sample.sold.config = some config ∧
      config.lastRaffle = some 0 := ⟨_, rfl, rfl⟩
  obtain rfl := Option.some.inj (hconfig'.symm.trans hconfig)
  have hentry : (Sample.sold.ledger 0).get? 0 = some ⟨"buyer", 2⟩ := rfl
  refine ⟨fun id => ?_, hmentions 0 (.purchase hentry), ?_⟩
  · rw [hnumbers id, hlast]
    simp
  · intro c caller request
    exact hcalls (.execute c.surroundings caller request) c.surroundings_answering

end Tombola
