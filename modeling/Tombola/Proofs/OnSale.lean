import Tombola.Proofs.Awaited
import Tombola.Proofs.Books

/-!
# Randomness does not come while tickets are on sale

The oracle answers a job at its time at the earliest, and tickets are sold until the raffle closes.
A raffle that waits for a job closes no later than that: its schedule is kept by changes and can
only be cut short by the sale of its last ticket. A raffle that has its randomness has closed.
-/

namespace Tombola

open Contract

/-- The last ticket is sold. -/
def Raffle.SoldOut (r : Raffle) : Prop := r.sold ≠ 0 ∧ some r.sold = r.options.maxTickets

namespace Contract

theorem elapsed_toNat (start now : Seconds) :
    (elapsed start now).toNat = now.toNat - start.toNat := by
  unfold elapsed
  split
  · next h => exact UInt64.toNat_sub_of_le _ _ h
  · next h =>
    rw [UInt64.le_iff_toNat_le] at h
    rw [UInt64.toNat_zero]
    omega

/-- A sale leaves the closing time as it is, or brings it forward when it is the last one. -/
theorem closing?_afterSale {r : Raffle} {now c : Timestamp} (total : TicketCount)
    (hstart : r.options.start ≤ now) (hc : r.closing? = some c) (hnow : now < c) :
    ∃ c', (afterSale r now total).closing? = some c' ∧ c' ≤ c := by
  unfold afterSale
  split
  · apply Timestamp.addSeconds?_mono hc
    rw [Raffle.closing?_eq_some] at hc
    rw [Timestamp.le_iff] at hstart
    rw [Timestamp.lt_iff] at hnow
    have hg : Timestamp.nanosPerSecond = 1000000000 := rfl
    -- Sales end within the duration, so no more whole seconds have passed since the start.
    rw [UInt64.le_iff_toNat_le, elapsed_toNat, Timestamp.seconds_toNat, Timestamp.seconds_toNat, hg]
    rw [hg] at hc
    omega
  · exact ⟨c, hc, le_refl c⟩

/-- A change that sets neither start nor duration keeps the closing time. -/
theorem closing?_revise {r : Raffle} {now : Timestamp} {request : OptionsRequest} {config : Config}
    (price : Asset) (hnow : now < r.options.start) (hsame : request.reschedules = false) :
    ({ r with
      price
      options := r.options.revise now r.prizes.length request config } : Raffle).closing? =
        r.closing? := by
  have hnone : request.start = none ∧ request.duration = none := by
    simpa [OptionsRequest.reschedules] using hsame
  have hmax : max r.options.start now = r.options.start := max_eq_left (le_of_lt hnow)
  simp only [Raffle.closing?, RaffleOptions.revise, hnone.1, hnone.2, Option.getD_none, hmax]

/-- A raffle that waits for a job is not rescheduled. -/
theorem Modification.schedule_kept {s s' : Store} {now : Timestamp} {sender : Address}
    {config : Config} {m : ModifyRequest} {r : Raffle}
    (h : Modification s now sender config m r s') {j : JobId} {job : Job}
    (hj : s.awaited.get? m.raffle = some j) (hjob : s.jobs.get? j = some job) :
    m.options.reschedules = false := by
  have hsome : s.outstanding m.raffle = .ok (some (j, job)) :=
    outstanding_eq_ok_some.mpr ⟨hj, hjob⟩
  by_contra hne
  have hnone := h.schedule (eq_true_of_ne_false hne)
  rw [hsome] at hnone
  cases hnone

/-- A sale keeps the closing time unless it leaves the raffle sold out, and a sold-out raffle sells
no more tickets than it has. -/
theorem Sale.closing_kept {s s' : Store} {now closes : Timestamp} {buyer : Address} {id : RaffleId}
    {count : TicketCount} {r : Raffle} {price : Coin} (h : Sale s now buyer id count r price s')
    (hkept : r.closing? = some closes ∨ r.SoldOut) :
    (afterSale r now (addClamped r.sold count)).closing? = some closes ∨
      (afterSale r now (addClamped r.sold count)).SoldOut := by
  by_cases hout : some (addClamped r.sold count) = r.options.maxTickets
  · right
    rw [Raffle.SoldOut, afterSale_sold, afterSale_maxTickets]
    exact ⟨h.total_ne_zero, hout⟩
  · rcases hkept with hc | ⟨_, hall⟩
    · left
      rw [afterSale, if_neg hout]
      exact hc
    · have hle := UInt32.le_iff_toNat_le.mp (h.withinRaffle _ hall.symm)
      have htotal := addClamped_toNat r.sold count
      have hlt := r.sold.toNat_lt
      have hsize : UInt32.size = 4294967296 := rfl
      have heq : addClamped r.sold count = r.sold := UInt32.toNat_inj.mp (by omega)
      exact absurd (by rw [heq, hall]) hout

end Contract

namespace Store

/-- A raffle that waits for a job closes before the oracle can answer, and one that has its
randomness has closed. -/
structure Scheduled (now : Timestamp) (id : RaffleId) (s : Store) : Prop where
  closing : ∀ {j job}, s.awaited.get? id = some j → s.jobs.get? j = some job →
    ∃ r c, s.raffles.get? id = some r ∧ r.closing? = some c ∧ c ≤ job.pendingSince
  drawn : ∀ {r}, s.raffles.get? id = some r → r.randomness.isSome →
    ∃ c, r.closing? = some c ∧ c ≤ now

namespace Scheduled

variable {s s' : Store} {now now' : Timestamp} {id : RaffleId} {r r' : Raffle}

theorem later (h : s.Scheduled now id) (hle : now ≤ now') : s.Scheduled now' id where
  closing := h.closing
  drawn hr hz := by
    obtain ⟨c, hc, hcn⟩ := h.drawn hr hz
    exact ⟨c, hc, le_trans hcn hle⟩

theorem of_raffle (hr' : s'.raffles.get? id = some r')
    (hclosing : ∀ j job, s'.awaited.get? id = some j → s'.jobs.get? j = some job →
      ∃ c, r'.closing? = some c ∧ c ≤ job.pendingSince)
    (hdrawn : r'.randomness.isSome → ∃ c, r'.closing? = some c ∧ c ≤ now) :
    s'.Scheduled now id where
  closing hj hjob := by
    obtain ⟨c, hc, hle⟩ := hclosing _ _ hj hjob
    exact ⟨r', c, hr', hc, hle⟩
  drawn hr hz := by
    obtain rfl := Option.some.inj (hr'.symm.trans hr)
    exact hdrawn hz

theorem closing_of (h : s.Scheduled now id) (hr : s.raffles.get? id = some r) {j : JobId}
    {job : Job} (hj : s.awaited.get? id = some j) (hjob : s.jobs.get? j = some job) :
    ∃ c, r.closing? = some c ∧ c ≤ job.pendingSince := by
  obtain ⟨r₀, c, hr₀, hc, hle⟩ := h.closing hj hjob
  obtain rfl := Option.some.inj (hr.symm.trans hr₀)
  exact ⟨c, hc, hle⟩

/-- A new job comes at a time that is not before the closing time. -/
theorem request {config : Config} {attempt : UInt32} {after : Option Timestamp} {c : Timestamp}
    (hr : s.raffles.get? id = some r) (hc : r.closing? = some c) (hz : r.randomness = none)
    (hle : c ≤ max (after.getD now) now) :
    (requestRandomness s now config id attempt after).1.Scheduled now id := by
  have hkept : (requestRandomness s now config id attempt after).1.raffles.get? id = some r := by
    rw [raffles_requestRandomness, hr]
  apply of_raffle hkept
  · intro j job hj hjob
    rw [awaited_requestRandomness_self] at hj
    obtain rfl := Option.some.inj hj
    rw [jobs_requestRandomness_self] at hjob
    obtain rfl := Option.some.inj hjob
    exact ⟨c, hc, hle⟩
  · intro hsome
    rw [hz] at hsome
    cases hsome

/-- Forgetting the job leaves only the randomness to look at. -/
theorem clear (hr : s.raffles.get? id = some r)
    (hdrawn : r.randomness.isSome → ∃ c, r.closing? = some c ∧ c ≤ now) :
    (s.clearJob id).Scheduled now id := by
  have hkept : (s.clearJob id).raffles.get? id = some r := by
    rw [raffles_clearJob, hr]
  refine of_raffle hkept ?_ hdrawn
  intro j job hj
  rw [awaited_clearJob_self] at hj
  cases hj

/-- Writing a raffle that closes as before, or earlier, keeps its schedule. -/
theorem put (h : s.Scheduled now id) (hr : s.raffles.get? id = some r)
    (hclosing : ∀ {c}, r.closing? = some c → ∃ c', r'.closing? = some c' ∧ c' ≤ c)
    (hz : r'.randomness = r.randomness) : (s.putRaffle id r').Scheduled now id := by
  apply of_raffle (s.raffles_putRaffle_self id r')
  · intro j job hj hjob
    obtain ⟨c, hc, hle⟩ := h.closing_of hr hj hjob
    obtain ⟨c', hc', hle'⟩ := hclosing hc
    exact ⟨c', hc', le_trans hle' hle⟩
  · intro hsome
    obtain ⟨c, hc, hle⟩ := h.drawn hr (hz ▸ hsome)
    obtain ⟨c', hc', hle'⟩ := hclosing hc
    exact ⟨c', hc', le_trans hle' hle⟩

theorem enter {config : Config} {request : CreateRequest} {owner : Address}
    (h : s.Scheduled now id) (hnew : Creation s now config request owner id r s') :
    s'.Scheduled now id := by
  have hrecord := hnew.record
  obtain rfl := hnew.store
  apply of_raffle hrecord
  · intro j job hj hjob
    obtain ⟨r₀, c, hr₀, _⟩ := h.closing hj hjob
    exact absurd hr₀ (hnew.ne_some r₀)
  · intro hsome
    rw [hnew.entered] at hsome
    cases hsome

theorem modify {sender : Address} {config : Config} {m : ModifyRequest}
    (h : s.Scheduled now m.raffle) (hm : Modification s now sender config m r s') :
    s'.Scheduled now m.raffle := by
  obtain ⟨_, hlt⟩ := Raffle.phase?_eq_created.mp hm.created
  have hrecord := hm.record
  obtain rfl := hm.store
  apply of_raffle hrecord
  · intro j job hj hjob
    obtain ⟨c, hc, hle⟩ := h.closing_of hm.kept hj hjob
    exact ⟨c, (closing?_revise _ hlt (hm.schedule_kept hj hjob)).trans hc, hle⟩
  · intro hsome
    obtain ⟨c, hc, hle⟩ := h.drawn hm.kept hsome
    exact absurd hlt (not_lt.mpr (le_trans (Raffle.start_le_closing hc) hle))

/-- Every change keeps every raffle on schedule. -/
theorem change (h : s.Scheduled now id) (hs : s.Named) {t : Turn} {focus : Option RaffleId}
    (ht : t.now = now) (hc : Change s t focus s') : s'.Scheduled now id := by
  subst ht
  by_cases hid : focus = some id
  · subst hid
    cases hc with
    | creation hnew => exact h.enter hnew
    | autocycle hnew hcycle =>
        obtain rfl := hcycle.store
        exact request hnew.record hcycle.closes (by rw [hnew.entered]) (le_max_left _ _)
    | modification hm => exact h.modify hm
    | sale hsale =>
        obtain ⟨_, hstart, c, hc, hnow⟩ := Raffle.phase?_eq_started.mp hsale.started
        obtain rfl := hsale.store
        exact put (s := (s.putPurchase _ _ _).putHolding _ _ _) ⟨h.closing, h.drawn⟩ hsale.kept
          (fun hc' => closing?_afterSale _ hstart hc' (Option.some.inj (hc.symm.trans hc') ▸ hnow))
          (afterSale_randomness _ _ _)
    | inquiry hask =>
        obtain ⟨_, hz, c, hc, hle⟩ := Raffle.phase?_eq_closed.mp hask.closed
        obtain rfl := hask.store
        exact request hask.kept hc hz (le_trans hle (le_max_right _ _))
    | draw hdraw =>
        obtain ⟨_, _, c, hc, hle⟩ := Raffle.phase?_eq_closed.mp hdraw.closed
        obtain rfl := hdraw.store
        exact clear (s.raffles_putRaffle_self _ _) fun _ => ⟨c, hc, hle⟩
    | cancellation hcancel =>
        have hdrawn := fun hz => h.drawn hcancel.kept hz
        obtain rfl := hcancel.store
        exact clear (s.raffles_putRaffle_self _ _) hdrawn
    | claim hclaim =>
        obtain rfl := hclaim.store
        exact h.put hclaim.kept (fun hc => ⟨_, hc, le_refl _⟩) rfl
  · have hagree := hc.agree hid
    constructor
    · intro j job hj hjob
      rw [hagree.awaited] at hj
      obtain ⟨attempt, rfl⟩ := hs _ _ hj
      rw [hc.jobs_agree hs hid] at hjob
      rw [hagree.raffle]
      exact h.closing hj hjob
    · intro r hr
      rw [hagree.raffle] at hr
      exact h.drawn hr

end Scheduled

/-! ## The job of a raffle that asks for its randomness at once -/

/-- What has become of the job that a raffle was created with, to be answered once it closes: the
raffle waits for it and closes then, or is sold out; or it waits for a later attempt; or it has its
randomness or is settled, and waits no more. -/
inductive Cycle (id : RaffleId) (closes : Timestamp) (s : Store) (r : Raffle) : Prop
  | waiting (awaited : s.awaited.get? id = some (Job.id id 0))
      (job : s.jobs.get? (Job.id id 0) = some ⟨id, closes, 0⟩)
      (kept : r.closing? = some closes ∨ r.SoldOut)
  | retried {attempt : UInt32} {since : Timestamp} (again : attempt ≠ 0)
      (awaited : s.awaited.get? id = some (Job.id id attempt))
      (job : s.jobs.get? (Job.id id attempt) = some ⟨id, since, attempt⟩)
  | ended (awaited : s.awaited.get? id = none) (done : ¬r.Unsettled ∨ r.randomness.isSome)

/-- A raffle that was created with a job, with its books and its schedule in order. -/
structure Cycling (now : Timestamp) (id : RaffleId) (closes : Timestamp) (s : Store) : Prop where
  named : s.Named
  accounted : s.Accounted now id
  scheduled : s.Scheduled now id
  cycle : ∃ r, s.raffles.get? id = some r ∧ Cycle id closes s r

namespace Cycle

variable {s s' : Store} {now : Timestamp} {id : RaffleId} {closes : Timestamp} {r r' : Raffle}

/-- The record of the raffle is written, and it still closes when it did unless it is sold out. -/
theorem put (h : Cycle id closes s r) (awaited : s'.awaited = s.awaited) (jobs : s'.jobs = s.jobs)
    (hkept : r.closing? = some closes ∨ r.SoldOut → s.awaited.get? id = some (Job.id id 0) →
      s.jobs.get? (Job.id id 0) = some ⟨id, closes, 0⟩ → r'.closing? = some closes ∨ r'.SoldOut)
    (hdone : ¬r.Unsettled ∨ r.randomness.isSome → ¬r'.Unsettled ∨ r'.randomness.isSome) :
    Cycle id closes s' r' := by
  cases h with
  | waiting hawaited hjob kept =>
      exact .waiting (awaited ▸ hawaited) (jobs ▸ hjob) (hkept kept hawaited hjob)
  | retried again hawaited hjob => exact .retried again (awaited ▸ hawaited) (jobs ▸ hjob)
  | ended hawaited done => exact .ended (awaited ▸ hawaited) (hdone done)

theorem sell {buyer : Address} {count : TicketCount} {price : Coin} (h : Cycle id closes s r)
    (hsale : Sale s now buyer id count r price s') :
    Cycle id closes s' (afterSale r now (addClamped r.sold count)) := by
  apply h.put (by rw [hsale.store]; rfl) (by rw [hsale.store]; rfl)
  · intro hkept _ _
    exact hsale.closing_kept hkept
  · rw [unsettled_afterSale, afterSale_randomness]
    intro hdone
    exact hdone

theorem attempt_ne_zero {config : Config} {attempt : UInt32} {j : JobId} {job : Job}
    (hask : Inquiry s now config id attempt r s') (hj : s.awaited.get? id = some j)
    (hjob : s.jobs.get? j = some job) : attempt ≠ 0 := by
  have hsome : s.outstanding id = .ok (some (j, job)) := outstanding_eq_ok_some.mpr ⟨hj, hjob⟩
  rintro rfl
  rcases hask.counted with ⟨hnone, _⟩ | ⟨_, _, _, _, _, _, hattempt⟩
  · rw [hsome] at hnone
    cases hnone
  · rw [UInt32.toNat_zero] at hattempt
    omega

/-- A raffle that waits for a job is asked about again only by a later attempt. -/
theorem request {config : Config} {attempt : UInt32} (h : Cycle id closes s r)
    (hask : Inquiry s now config id attempt r s') : Cycle id closes s' r := by
  have hretried : attempt ≠ 0 → Cycle id closes s' r := by
    intro hne
    rw [hask.store]
    exact .retried hne (awaited_requestRandomness_self _ _ _ _ _ _)
      (jobs_requestRandomness_self _ _ _ _ _ _)
  cases h with
  | waiting hawaited hjob _ => exact hretried (attempt_ne_zero hask hawaited hjob)
  | retried _ hawaited hjob => exact hretried (attempt_ne_zero hask hawaited hjob)
  | ended _ done =>
      obtain ⟨hunsettled, hz, _⟩ := Raffle.phase?_eq_closed.mp hask.closed
      rcases done with hsettled | hsome
      · exact absurd hunsettled hsettled
      · rw [hz] at hsome
        cases hsome

/-- A change of a raffle that waits for a job keeps its schedule. -/
theorem modify {sender : Address} {config : Config} {m : ModifyRequest}
    (h : Cycle m.raffle closes s r) (hs : s.Accounted now m.raffle)
    (hm : Modification s now sender config m r s') : Cycle m.raffle closes s' { r with
      price := m.price.getD r.price
      options := r.options.revise now r.prizes.length m.options config } := by
  obtain ⟨_, hlt⟩ := Raffle.phase?_eq_created.mp hm.created
  refine h.put (by rw [hm.store]; rfl) (by rw [hm.store]; rfl) ?_ fun hdone => hdone
  intro hkept hawaited hjob
  rcases hkept with hc | ⟨hsold, _⟩
  · exact .inl ((closing?_revise _ hlt (hm.schedule_kept hawaited hjob)).trans hc)
  · exact absurd (hs.sold_eq_zero hm.kept hlt) hsold

end Cycle

/-- Every change keeps the raffle cycling. -/
theorem Cycling.change {s s' : Store} {now : Timestamp} {id : RaffleId} {closes : Timestamp}
    (h : s.Cycling now id closes) {t : Turn} {focus : Option RaffleId} (ht : t.now = now)
    (hc : Change s t focus s') : s'.Cycling now id closes := by
  refine ⟨h.named.change hc, h.accounted.change ht hc, h.scheduled.change h.named ht hc, ?_⟩
  obtain ⟨r, hr, hcycle⟩ := h.cycle
  subst ht
  by_cases hid : focus = some id
  · subst hid
    cases hc with
    | creation hnew => exact absurd hr (hnew.ne_some r)
    | autocycle hnew _ => exact absurd hr (hnew.ne_some r)
    | modification hm =>
        obtain rfl := Option.some.inj (hr.symm.trans hm.kept)
        exact ⟨_, hm.record, hcycle.modify h.accounted hm⟩
    | sale hsale =>
        obtain rfl := Option.some.inj (hr.symm.trans hsale.kept)
        exact ⟨_, hsale.record, hcycle.sell hsale⟩
    | inquiry hask =>
        obtain rfl := Option.some.inj (hr.symm.trans hask.kept)
        exact ⟨r, hask.record, hcycle.request hask⟩
    | draw hdraw =>
        refine ⟨_, hdraw.record, .ended ?_ (.inr rfl)⟩
        rw [hdraw.store, awaited_clearJob_self]
    | cancellation hcancel =>
        refine ⟨_, hcancel.record, .ended ?_ (.inl ?_)⟩
        · rw [hcancel.store, awaited_clearJob_self]
        · rintro ⟨hfalse, _⟩
          cases hfalse
    | claim hclaim =>
        obtain rfl := Option.some.inj (hr.symm.trans hclaim.kept)
        refine ⟨{ r with claimed := true }, hclaim.record,
          hcycle.put (by rw [hclaim.store]; rfl) (by rw [hclaim.store]; rfl)
            (fun hkept _ _ => hkept) ?_⟩
        intro _
        left
        rintro ⟨_, hfalse⟩
        cases hfalse
  · have hagree := hc.agree hid
    refine ⟨r, hagree.raffle.trans hr, ?_⟩
    cases hcycle with
    | waiting hawaited hjob kept =>
        exact .waiting (hagree.awaited.trans hawaited)
          ((hc.jobs_agree h.named hid 0).trans hjob) kept
    | retried again hawaited hjob =>
        exact .retried again (hagree.awaited.trans hawaited)
          ((hc.jobs_agree h.named hid _).trans hjob)
    | ended hawaited done => exact .ended (hagree.awaited.trans hawaited) done

end Store

/-! ## Sales are over before randomness can come -/

/-- No purchase of the raffle goes through from a time on. -/
def Store.SalesOver (s : Store) (id : RaffleId) (since : Timestamp) : Prop :=
  ∀ env caller (b : BuyRequest) effect, b.raffle = id → since ≤ env.now →
    execute s env caller (.buy b) ≠ .ok effect

variable {s s' : Store} {now : Timestamp} {id : RaffleId} {r : Raffle}

theorem Store.salesOver_of_closing {c since : Timestamp} (hr : s.raffles.get? id = some r)
    (hc : r.closing? = some c) (hle : c ≤ since) : s.SalesOver id since := by
  rintro env caller b ⟨s', response⟩ rfl hsince hbuy
  obtain ⟨r₀, _, hsale, _⟩ := buy_eq_ok hbuy
  obtain rfl := Option.some.inj (hr.symm.trans hsale.kept)
  obtain ⟨_, _, c₀, hc₀, hnow⟩ := Raffle.phase?_eq_started.mp hsale.started
  obtain rfl := Option.some.inj (hc.symm.trans hc₀)
  exact absurd hnow (not_lt.mpr (le_trans hle hsince))

theorem Reachable.scheduled (h : Reachable .forward now s) (id : RaffleId) :
    s.Scheduled now id := by
  refine (h.invariant (P := fun now s => s.Named ∧ s.Scheduled now id) ?_ ?_ ?_).2
  · intro now config caller request _
    exact ⟨fun _ _ => nofun, nofun, nofun⟩
  · rintro now now' s hle ⟨hn, hs⟩
    exact ⟨hn, hs.later hle⟩
  · rintro t s s' focus ⟨hn, hs⟩ hc
    exact ⟨hn.change hc, hs.change hn rfl hc⟩

theorem Run.cycling {steps : List Step} {now' closes : Timestamp}
    (h : Run .forward now s steps now' s') (hs : s.Cycling now id closes) :
    s'.Cycling now' id closes := by
  refine h.keeps (P := fun now s => s.Cycling now id closes) ?_ ?_ hs
  · intro now now' s hle hs
    exact { hs with accounted := hs.accounted.later hle, scheduled := hs.scheduled.later hle }
  · intro t s s' focus hs hc
    exact hs.change rfl hc

/-- A raffle that is created with its first request for randomness waits for that job and closes
when the job can be answered. -/
theorem cycling_of_create (h : Reachable .forward now s) {env : Surroundings} {caller : Caller}
    {request : CreateRequest} {response : Response} (hle : now ≤ env.now)
    (hcreate : execute s env caller (.create request) = .ok (s', response))
    (hauto : request.autocycle = some true) : ∃ id closes,
      s.raffles.get? id = none ∧ s'.outstanding id = .ok (some (Job.id id 0, ⟨id, closes, 0⟩)) ∧
        s'.Cycling env.now id closes := by
  obtain ⟨config, _, _, owner, id, raffle, entered, hnew, _, _, _, hrest⟩ := create_eq_ok hcreate
  rcases hrest with ⟨hfalse, _⟩ | ⟨closes, _, hcycle, _⟩
  · rw [hauto] at hfalse
    cases hfalse
  have hchange : Change s (.execute env caller (.create request)) (some id) s' :=
    .autocycle hnew hcycle rfl
  have hcloses : env.now ≤ closes :=
    le_trans hnew.now_le_start (Raffle.start_le_closing hcycle.closes)
  have hawaited : s'.awaited.get? id = some (Job.id id 0) := by
    rw [hcycle.store, awaited_requestRandomness_self]
  have hjob : s'.jobs.get? (Job.id id 0) = some ⟨id, closes, 0⟩ := by
    rw [hcycle.store, jobs_requestRandomness_self, Option.getD_some, max_eq_left hcloses]
  have hkept := hcycle.record hnew.record
  exact ⟨id, closes, hnew.fresh, outstanding_eq_ok_some.mpr ⟨hawaited, hjob⟩,
    h.named.change hchange, ((h.accounted id).later hle).change rfl hchange,
    ((h.scheduled id).later hle).change h.named rfl hchange,
    raffle, hkept, .waiting hawaited hjob (.inl hcycle.closes)⟩

/-- While a raffle waits for a job it closes no later than the job can be answered, and exactly then
when the job was asked for at the creation, until the raffle is sold out. A purchase never moves the
closing time later. So no purchase goes through once the job can be answered, and none when the
randomness is there. -/
theorem sales_over_before_randomness (h : Reachable .forward now s) :
    (∀ id r j job, s.raffles.get? id = some r → s.outstanding id = .ok (some (j, job)) →
      (∃ c, r.closing? = some c ∧ c ≤ job.pendingSince) ∧ s.SalesOver id job.pendingSince) ∧
    (∀ id r, s.raffles.get? id = some r → r.randomness.isSome → s.SalesOver id now) ∧
    (∀ env caller (b : BuyRequest) s' response,
      execute s env caller (.buy b) = .ok (s', response) →
      ∃ r r' c c', s.raffles.get? b.raffle = some r ∧ s'.raffles.get? b.raffle = some r' ∧
        r.closing? = some c ∧ r'.closing? = some c' ∧ c' ≤ c) ∧
    (∀ env caller request s' response, now ≤ env.now →
      execute s env caller (.create request) = .ok (s', response) →
      request.autocycle = some true → ∃ id closes, s.raffles.get? id = none ∧
        s'.outstanding id = .ok (some (Job.id id 0, ⟨id, closes, 0⟩)) ∧
        ∀ {steps now'' s''}, Run .forward env.now s' steps now'' s'' → ∀ job,
          s''.outstanding id = .ok (some (Job.id id 0, job)) → job.pendingSince = closes ∧
          ∃ r, s''.raffles.get? id = some r ∧
            (r.closing? = some job.pendingSince ∨ r.SoldOut)) := by
  refine ⟨?_, ?_, ?_, ?_⟩
  · intro id r j job hr hsome
    obtain ⟨hj, hjob⟩ := outstanding_eq_ok_some.mp hsome
    obtain ⟨c, hc, hle⟩ := (h.scheduled id).closing_of hr hj hjob
    exact ⟨⟨c, hc, hle⟩, Store.salesOver_of_closing hr hc hle⟩
  · intro id r hr hsome
    obtain ⟨c, hc, hle⟩ := (h.scheduled id).drawn hr hsome
    exact Store.salesOver_of_closing hr hc hle
  · intro env caller b s' response hbuy
    obtain ⟨r, _, hsale, _⟩ := buy_eq_ok hbuy
    obtain ⟨_, hstart, c, hc, hnow⟩ := Raffle.phase?_eq_started.mp hsale.started
    obtain ⟨c', hc', hle⟩ := closing?_afterSale (addClamped r.sold b.count) hstart hc hnow
    exact ⟨r, _, c, c', hsale.kept, hsale.record, hc, hc', hle⟩
  · intro env caller request s' response hle hcreate hauto
    obtain ⟨id, closes, hfresh, hsome, hcycling⟩ := cycling_of_create h hle hcreate hauto
    refine ⟨id, closes, hfresh, hsome, ?_⟩
    intro steps now'' s'' hrun job hjob
    obtain ⟨hawaited, hkept⟩ := outstanding_eq_ok_some.mp hjob
    obtain ⟨r, hr, hcycle⟩ := (hrun.cycling hcycling).cycle
    cases hcycle with
    | waiting _ hjob' hcloses =>
        obtain rfl := Option.some.inj (hkept.symm.trans hjob')
        exact ⟨rfl, r, hr, hcloses⟩
    | retried again hawaited' _ =>
        have heq := Option.some.inj (hawaited.symm.trans hawaited')
        exact absurd (Job.id_inj heq).2.symm again
    | ended hawaited' _ => exact absurd (hawaited.symm.trans hawaited') (by simp)

/-- The raffle of the small run waits for the job that it was created with, and sells nothing more
once that can be answered. -/
theorem sales_of_sample_over : ∃ r j job, Sample.sold.raffles.get? 0 = some r ∧
    Sample.sold.outstanding 0 = .ok (some (j, job)) ∧ job.pendingSince = ⟨1000000005⟩ ∧
    (∃ c, r.closing? = some c ∧ c ≤ job.pendingSince) ∧
    Sample.sold.SalesOver 0 job.pendingSince := by
  obtain ⟨hwaiting, _⟩ := sales_over_before_randomness Sample.sold_reachable
  obtain ⟨r, j, job, hr, hsome, hsince⟩ : ∃ r j job, Sample.sold.raffles.get? 0 = some r ∧
      Sample.sold.outstanding 0 = .ok (some (j, job)) ∧ job.pendingSince = ⟨1000000005⟩ :=
    ⟨_, _, _, rfl, rfl, rfl⟩
  exact ⟨r, j, job, hr, hsome, hsince, hwaiting 0 r j job hr hsome⟩

end Tombola
