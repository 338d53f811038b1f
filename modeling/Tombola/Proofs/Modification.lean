import Tombola.Proofs.WellFormed

/-!
# What a change of a raffle changes

An owner who changes a raffle names a price and options. What is named takes its value, within its
bounds, and everything else stays. The number of tickets is the one exception. A change that does
not name it does what a change does that names the number so far: it brings it down to the one that
the configuration allows, which may have been lowered since the raffle was created.
-/

namespace Tombola

open Contract

/-- The options that a request names take their values: a start not before the present, a number of
tickets not above the most, a preview among the prizes. The others keep theirs. -/
def RaffleOptions.applying (o : RaffleOptions) (r : OptionsRequest) (now : Timestamp) (prizes : Nat)
    (most : TicketCount) : RaffleOptions where
  start := (r.start.map (max · now)).getD o.start
  duration := r.duration.getD o.duration
  timeout := r.timeout.getD o.timeout
  comment := r.comment.or o.comment
  maxTickets := (r.maxTickets.map (min · most)).or o.maxTickets
  maxPerBuyer := r.maxPerBuyer.or o.maxPerBuyer
  preview := (r.preview.map (previewAmong prizes)).getD o.preview

/-- The price and the options that a request names take their values. -/
def Raffle.applying (r : Raffle) (m : ModifyRequest) (now : Timestamp) (most : TicketCount) :
    Raffle := { r with
  price := m.price.getD r.price
  options := r.options.applying m.options now r.prizes.length most }

/-- The request with a number of tickets where it names none. -/
def OptionsRequest.naming (r : OptionsRequest) (limit : TicketCount) : OptionsRequest :=
  { r with maxTickets := some (r.maxTickets.getD limit) }

/-- The change with a number of tickets where it names none. -/
def ModifyRequest.naming (m : ModifyRequest) (limit : TicketCount) : ModifyRequest :=
  { m with options := m.options.naming limit }

/-- The number of tickets of the raffle is within that of the configuration. -/
def Store.Capped (id : RaffleId) (s : Store) : Prop :=
  ∀ r limit config most, s.raffles.get? id = some r → r.options.maxTickets = some limit →
    s.config = some config → config.maxTickets = some most → limit ≤ most

/-- The step went through and has set the number of tickets of the configuration. -/
def Step.SetsLimit (step : Step) : Prop := step.response.isSome ∧ step.turn.limit?.isSome

variable {clock : Clock} {now : Timestamp} {s s' : Store} {t : Turn} {focus : Option RaffleId}
  {id : RaffleId} {config : Config} {limit most : TicketCount} {steps : List Step}

theorem min_eq_left_iff_le : min limit most = limit ↔ limit ≤ most := by
  constructor
  · intro heq
    rw [← heq]
    exact Std.min_le_right
  · intro hle
    rw [Std.min_eq_if, if_pos hle]

namespace RaffleOptions

theorem capped_some (hmost : config.maxTickets = some most) (n : TicketCount) :
    capped config (some n) = some (min n most) := by
  simp only [capped, hmost, Std.min_eq_if]
  by_cases hle : n ≤ most
  · rw [if_pos hle]
    split
    · next hge => rw [UInt32.le_antisymm hle hge]
    · rfl
  · have hge : most ≤ n := (UInt32.le_total n most).resolve_left hle
    rw [if_neg hle, if_pos hge]

theorem le_of_capped (hmost : config.maxTickets = some most) {requested : Option TicketCount}
    (h : capped config requested = some limit) : limit ≤ most := by
  cases requested with
  | none =>
      simp only [capped, hmost, Option.some.injEq] at h
      rw [h]
      exact UInt32.le_refl limit
  | some n =>
      rw [capped_some hmost, Option.some.injEq] at h
      rw [← h]
      exact Std.min_le_right

/-- Before the start a change acts as if it named the number of tickets so far. -/
theorem revise_eq {o : RaffleOptions} (hmost : config.maxTickets = some most)
    (hlimit : o.maxTickets = some limit) (hstart : now < o.start) (r : OptionsRequest)
    (prizes : Nat) :
    o.revise now prizes r config = o.applying (r.naming limit) now prizes most := by
  have hmax : max (r.start.getD o.start) now = (r.start.map (max · now)).getD o.start := by
    cases r.start with
    | none => exact max_eq_left (le_of_lt hstart)
    | some start => rfl
  have htickets : capped config (r.maxTickets.or o.maxTickets) =
      some (min (r.maxTickets.getD limit) most) := by
    rw [hlimit, ← capped_some hmost]
    cases r.maxTickets <;> rfl
  simp only [revise, applying, OptionsRequest.naming, hmax, htickets, Option.map_some,
    Option.some_or]

/-- To name the number of tickets so far makes no difference when another one is named, or when that
one is within the most. -/
theorem applying_naming_eq_iff {o : RaffleOptions} (hlimit : o.maxTickets = some limit)
    (r : OptionsRequest) (now : Timestamp) (prizes : Nat) :
    o.applying (r.naming limit) now prizes most = o.applying r now prizes most ↔
      r.maxTickets.isSome ∨ limit ≤ most := by
  simp only [applying, OptionsRequest.naming, hlimit, RaffleOptions.mk.injEq, true_and, and_true]
  cases r.maxTickets with
  | none =>
      simp only [Option.map_some, Option.map_none, Option.some_or, Option.none_or, Option.getD_none,
        Option.some.injEq, Option.isSome_none, Bool.false_eq_true, false_or]
      exact min_eq_left_iff_le
  | some n => exact iff_of_true rfl (.inl rfl)

end RaffleOptions

/-- As long as the number of tickets of the configuration is not set, that of a raffle stays within
it. -/
theorem Store.Capped.change (h : s.Capped id) (ht : t.limit? = none) (hc : Change s t focus s') :
    s'.Capped id := by
  intro r' limit config' most hr' hlimit hconfig' hmost
  obtain ⟨config, hconfig, hsame⟩ : ∃ config, s.config = some config ∧
      config.maxTickets = some most := by
    rcases hc.config with heq | ⟨config, config'', hconfig, hconfig'', hkept, _⟩
    · exact ⟨config', heq ▸ hconfig', hmost⟩
    · obtain rfl := Option.some.inj (hconfig'.symm.trans hconfig'')
      rw [ht, Option.none_or, or_self] at hkept
      exact ⟨config, hconfig, hkept ▸ hmost⟩
  cases hc.raffle id with
  | same raffle _ _ => exact h r' limit config most (raffle ▸ hr') hlimit hconfig hsame
  | entered hnew raffle _ _ _ =>
      obtain rfl := Option.some.inj (raffle.symm.trans hr')
      obtain rfl := Option.some.inj (hconfig.symm.trans hnew.configured)
      rw [hnew.entered] at hlimit
      exact RaffleOptions.le_of_capped hsame hlimit
  | revised kept hrev raffle _ _ =>
      obtain rfl := Option.some.inj (raffle.symm.trans hr')
      cases hrev with
      | modified hconfigured _ _ _ =>
          obtain rfl := Option.some.inj (hconfig.symm.trans hconfigured)
          exact RaffleOptions.le_of_capped hsame hlimit
      | _ => exact h _ limit config most kept hlimit hconfig hsame
  | sold hsale _ =>
      obtain rfl := Option.some.inj (hsale.record.symm.trans hr')
      rw [afterSale_maxTickets] at hlimit
      exact h _ limit config most hsale.kept hlimit hconfig hsame

theorem Recorded.capped (h : Recorded clock steps now s)
    (hsteps : ∀ step ∈ steps, ¬step.SetsLimit) (id : RaffleId) : s.Capped id := by
  refine h.unless (P := fun s => s.Capped id) ?_ ?_ hsteps
  · intro config caller request _ r limit config' most hr
    cases hr
  · intro now t s s' response _ hlast hs hout
    obtain ⟨focus, hc⟩ := Turn.change hout
    have hkept : t.limit? = none := by
      by_contra hset
      exact hlast ⟨rfl, Option.isSome_iff_ne_none.mpr hset⟩
    exact hs.change hkept hc

/-- A change that goes through is one of a raffle that has not started, by its owner. It sets the
price and the options that it names, and the number of tickets as if that was named too, and keeps
the other options, every other field of the raffle and the rest of the store. So it changes what it
names and nothing else exactly when it names the number of tickets, or when the number so far is
within the one of the configuration. It is as long as no step that went through has set that one. -/
theorem change_sets_named_iff (h : Recorded clock steps now s) {env : Surroundings}
    {caller : Caller} {m : ModifyRequest} {response : Response}
    (hmodify : execute s env caller (.modify m) = .ok (s', response)) :
    ∃ config r limit most, s.config = some config ∧ config.maxTickets = some most ∧
      s.raffles.get? m.raffle = some r ∧ r.options.maxTickets = some limit ∧
      caller.address = r.owner ∧ r.phase? env.now = some .created ∧
      s' = s.putRaffle m.raffle (r.applying (m.naming limit) env.now most) ∧
      (s' = s.putRaffle m.raffle (r.applying m env.now most) ↔
        m.options.maxTickets.isSome ∨ limit ≤ most) ∧
      ((∀ step ∈ steps, ¬step.SetsLimit) → limit ≤ most) := by
  obtain ⟨config, r, hmodified, _⟩ := modify_eq_ok hmodify
  obtain ⟨most, hmost⟩ := h.reachable.limited hmodified.configured
  obtain ⟨limit, hlimit⟩ := (h.reachable.checked hmodified.kept).limited
  have hstart := (Raffle.phase?_eq_created.mp hmodified.created).2
  have hstore : s' = s.putRaffle m.raffle (r.applying (m.naming limit) env.now most) := by
    rw [hmodified.store, RaffleOptions.revise_eq hmost hlimit hstart]
    rfl
  refine ⟨config, r, limit, most, hmodified.configured, hmost, hmodified.kept, hlimit,
    hmodified.owner, hmodified.created, hstore, ?_, ?_⟩
  · rw [← RaffleOptions.applying_naming_eq_iff hlimit m.options env.now r.prizes.length, hstore]
    constructor
    · intro hsame
      have hrecord := congrArg (·.raffles.get? m.raffle) hsame
      simp only [Store.raffles_putRaffle_self, Option.some.injEq] at hrecord
      exact congrArg Raffle.options hrecord
    · intro hsame
      exact congrArg (fun options => s.putRaffle m.raffle
        { r with price := m.price.getD r.price, options }) hsame
  · intro hsteps
    exact h.capped hsteps m.raffle r limit config most hmodified.kept hlimit hmodified.configured
      hmost

namespace Sample

/-- A raffle of a hundred tickets starts later. -/
def plannedCreation : Turn :=
  .execute (env 5) ⟨"owner", [coin 7 "uprize"]⟩
    (.create { raffle with
      options := { OptionsRequest.empty with start := some ⟨100⟩, maxTickets := some 100 }
      autocycle := none })

/-- No raffle may sell more than ten tickets from now on. -/
def lowering : Turn :=
  .execute (env 6) ⟨"owner", []⟩
    (.updateConfig ⟨none, none, none, none, none, some 10, none, none, none, none⟩)

/-- Only a comment is named. -/
def commenting : ModifyRequest :=
  ⟨0, none, { OptionsRequest.empty with comment := some "new description" }⟩

def planned : Store := plannedCreation.after setUp

def lowered : Store := lowering.after planned

theorem lowered_recorded : Recorded .forward [⟨lowering, lowering.response? planned⟩,
    ⟨plannedCreation, plannedCreation.response? setUp⟩] ⟨6⟩ lowered :=
  ⟨⟨"owner", []⟩, setting, setUp, _, ⟨5⟩, rfl,
    .turn lowering (.turn plannedCreation .start (by decide : (⟨5⟩ : Timestamp) ≤ ⟨5⟩))
      (by decide : (⟨5⟩ : Timestamp) ≤ ⟨6⟩)⟩

end Sample

/-- A raffle of a hundred tickets has its comment changed after the configuration has been brought
down to ten, and may sell no more than ten after that. -/
theorem comment_of_sample_lowers_tickets : ∃ r s' response,
    Sample.lowered.raffles.get? 0 = some r ∧ r.options.maxTickets = some 100 ∧
    execute Sample.lowered (Sample.env 7) ⟨"owner", []⟩ (.modify Sample.commenting) =
      .ok (s', response) ∧
    (s'.raffles.get? 0).map (·.options.maxTickets) = some (some 10) ∧
    s' ≠ Sample.lowered.putRaffle 0 (r.applying Sample.commenting ⟨7⟩ 10) := by
  obtain ⟨r₀, s', response, hkept, htickets, hmodify⟩ : ∃ r s' response,
      Sample.lowered.raffles.get? 0 = some r ∧ r.options.maxTickets = some 100 ∧
      execute Sample.lowered (Sample.env 7) ⟨"owner", []⟩ (.modify Sample.commenting) =
        .ok (s', response) := ⟨_, _, _, rfl, rfl, rfl⟩
  obtain ⟨config₀, hconfig₀, hmost₀⟩ : ∃ config, Sample.lowered.config = some config ∧
      config.maxTickets = some 10 := ⟨_, rfl, rfl⟩
  obtain ⟨config, r, limit, most, hconfig, hmost, hr, hlimit, _, _, rfl, hiff, _⟩ :=
    change_sets_named_iff Sample.lowered_recorded hmodify
  obtain rfl := Option.some.inj (hconfig₀.symm.trans hconfig)
  obtain rfl := Option.some.inj (hmost₀.symm.trans hmost)
  obtain rfl := Option.some.inj (hkept.symm.trans hr)
  obtain rfl := Option.some.inj (htickets.symm.trans hlimit)
  refine ⟨r₀, _, response, hkept, htickets, hmodify, ?_, ?_⟩
  · exact congrArg (Option.map (·.options.maxTickets)) (Store.raffles_putRaffle_self _ _ _)
  · intro hsame
    rcases hiff.mp hsame with hnamed | hle
    · cases hnamed
    · exact absurd hle (by decide)

end Tombola
