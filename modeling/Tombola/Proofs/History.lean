import Tombola.Contract
import Tombola.Proofs.Outcome
import Tombola.Proofs.Timestamp

/-!
# Runs of the contract

Once it is set up, the contract lives through turns: requests of callers, orders of the chain's
governance, and migrations. A turn that fails leaves the store as it was. A run keeps the steps that
it has taken, the latest first, and a clock says which times may follow each other.
-/

namespace Tombola

open Contract

/-- One call of the contract after it has been set up. -/
inductive Turn where
  | execute (env : Surroundings) (caller : Caller) (request : Request)
  | govern (now : Timestamp) (request : GovernanceRequest)
  | migrate (now : Timestamp)

namespace Turn

/-- When the turn is taken. -/
def now : Turn → Timestamp
  | .execute env _ _ => env.now
  | .govern now _ => now
  | .migrate now => now

/-- The coins that the caller attaches. -/
def funds : Turn → List Coin
  | .execute _ caller _ => caller.funds
  | _ => []

/-- What comes of a turn. -/
def outcome (t : Turn) (s : Store) : Outcome Effect :=
  match t with
  | .execute env caller request => Contract.execute s env caller request
  | .govern _ request => Contract.govern s request
  | .migrate _ => .ok (Contract.migrate s)

/-- The store after the turn. -/
def after (t : Turn) (s : Store) : Store :=
  match t.outcome s with
  | .ok (s', _) => s'
  | .error _ => s

/-- The response to the turn; none when it fails. -/
def response? (t : Turn) (s : Store) : Option Response :=
  match t.outcome s with
  | .ok (_, response) => some response
  | .error _ => none

variable {t : Turn} {s s' : Store} {response : Response}

theorem after_of_ok (h : t.outcome s = .ok (s', response)) : t.after s = s' := by
  rw [after, h]

theorem response?_of_ok (h : t.outcome s = .ok (s', response)) :
    t.response? s = some response := by
  rw [response?, h]

theorem after_of_error {fault : Fault} (h : t.outcome s = .error fault) : t.after s = s := by
  rw [after, h]

theorem response?_of_error {fault : Fault} (h : t.outcome s = .error fault) :
    t.response? s = none := by
  rw [response?, h]

theorem outcome_of_isSome (h : (t.response? s).isSome) :
    ∃ response, t.outcome s = .ok (t.after s, response) := by
  unfold response? at h
  unfold after
  split at h
  · next s' response hout =>
    rw [hout]
    exact ⟨response, rfl⟩
  · cases h

end Turn

/-- A turn that was taken, with the response when it went through. -/
structure Step where
  turn : Turn
  response : Option Response

/-- Which time may follow a time. -/
abbrev Clock := Timestamp → Timestamp → Prop

namespace Clock

/-- Time does not go back. -/
def forward : Clock := (· ≤ ·)

/-- Any time can follow any other. -/
def free : Clock := fun _ _ => True

end Clock

/-- A run leads from one store to another by the steps that it records, the latest first. -/
inductive Run (clock : Clock) (now : Timestamp) (s : Store) : List Step → Timestamp → Store → Prop
  | start : Run clock now s [] now s
  | turn {steps : List Step} {now' : Timestamp} {s' : Store} (t : Turn) :
      Run clock now s steps now' s' → clock now' t.now →
      Run clock now s (⟨t, t.response? s'⟩ :: steps) t.now (t.after s')

/-- The store has come about by setting the contract up and taking the steps. -/
def Recorded (clock : Clock) (steps : List Step) (now : Timestamp) (s : Store) : Prop :=
  ∃ caller request s₀ response opening,
    setup .empty caller request = .ok (s₀, response) ∧ Run clock opening s₀ steps now s

/-- The store has come about by setting the contract up and a run. -/
def Reachable (clock : Clock) (now : Timestamp) (s : Store) : Prop :=
  ∃ caller request s₀ response opening steps,
    setup .empty caller request = .ok (s₀, response) ∧ Run clock opening s₀ steps now s

variable {clock : Clock} {now now' now'' : Timestamp} {s s' s'' : Store} {steps steps' : List Step}

theorem Run.trans (h : Run clock now s steps now' s') (h' : Run clock now' s' steps' now'' s'') :
    Run clock now s (steps' ++ steps) now'' s'' := by
  induction h' with
  | start => exact h
  | turn t _ hclock ih => exact ih.turn t hclock

theorem Reachable.run (h : Reachable clock now s) (h' : Run clock now s steps now' s') :
    Reachable clock now' s' := by
  obtain ⟨caller, request, s₀, response, opening, before, hsetup, hrun⟩ := h
  exact ⟨caller, request, s₀, response, opening, steps ++ before, hsetup, hrun.trans h'⟩

theorem Recorded.reachable (h : Recorded clock steps now s) : Reachable clock now s := by
  obtain ⟨caller, request, s₀, response, opening, hsetup, hrun⟩ := h
  exact ⟨caller, request, s₀, response, opening, steps, hsetup, hrun⟩

theorem Recorded.turn (h : Recorded clock steps now s) (t : Turn) (hclock : clock now t.now) :
    Recorded clock (⟨t, t.response? s⟩ :: steps) t.now (t.after s) := by
  obtain ⟨caller, request, s₀, response, opening, hsetup, hrun⟩ := h
  exact ⟨caller, request, s₀, response, opening, hsetup, hrun.turn t hclock⟩

/-- What waiting keeps and every turn keeps, with its step added to the record, a run keeps. -/
theorem Run.records {P : List Step → Timestamp → Store → Prop}
    (wait : ∀ {steps now' now'' s'}, clock now' now'' → P steps now' s' → P steps now'' s')
    (accept : ∀ {steps now' t s' s'' response}, Run clock now s steps now' s' → clock now' t.now →
      P steps t.now s' → t.outcome s' = .ok (s'', response) →
      P (⟨t, some response⟩ :: steps) t.now s'')
    (reject : ∀ {steps t s'}, P steps t.now s' → P (⟨t, none⟩ :: steps) t.now s')
    (h : Run clock now s steps now' s') (h₀ : P [] now s) : P steps now' s' := by
  induction h with
  | start => exact h₀
  | @turn steps now' s' t hrun hclock ih =>
      have hs : P steps t.now s' := wait hclock ih
      cases hout : t.outcome s' with
      | ok effect =>
          rw [Turn.after_of_ok hout, Turn.response?_of_ok hout]
          exact accept hrun hclock hs hout
      | error fault =>
          rw [Turn.after_of_error hout, Turn.response?_of_error hout]
          exact reject hs

/-- What waiting keeps and every turn that goes through keeps, a run keeps. -/
theorem Run.preserves {P : Timestamp → Store → Prop}
    (wait : ∀ {now now' s}, clock now now' → P now s → P now' s)
    (accept : ∀ {t : Turn} {s s' response}, P t.now s → t.outcome s = .ok (s', response) →
      P t.now s') (h : Run clock now s steps now' s') (h₀ : P now s) : P now' s' :=
  h.records (P := fun _ now s => P now s) wait (fun _ _ hs hout => accept hs hout) (fun hs => hs) h₀

/-! ## A small run

A contract is set up, a raffle that asks for its randomness at once is created, two tickets of it
are sold, the oracle answers, and the raffle is claimed. Statements about runs are applied to this
one. -/

namespace Sample

def coin (amount : UInt64) (denom : Denom) : Coin := ⟨denom, .ofWord amount⟩

/-- The contract's surroundings at a time. No collection tells an owner. -/
def env (nanos : UInt64) : Surroundings := ⟨⟨nanos⟩, "raffles", fun _ _ => .error .unauthorized⟩

/-- A creation costs nothing but the oracle's fee, and all sales go to the raffle's owner. -/
def setting : SetupRequest where
  name := "raffles"
  oracle := "nois"
  oracleFee := coin 50 "unois"
  owner := none
  treasury := none
  minDuration := none
  minTimeout := none
  maxTickets := none
  cut := .zero
  creationFees := some []

/-- The only prize is seven coins, and randomness is asked for at once. -/
def raffle : CreateRequest where
  owner := none
  prizes := [.coin (coin 7 "uprize")]
  options := .empty
  price := .coin (coin 4 "ustars")
  autocycle := some true

/-- The owner brings the prize and the oracle's fee along. -/
def creation : Turn :=
  .execute (env 5) ⟨"owner", [coin 7 "uprize", coin 50 "unois"]⟩ (.create raffle)

/-- A buyer takes two tickets. -/
def sale : Turn :=
  .execute (env 6) ⟨"buyer", [coin 8 "ustars"]⟩ (.buy ⟨0, 2, .coin (coin 8 "ustars")⟩)

def setUp : Store :=
  match setup .empty ⟨"owner", []⟩ setting with
  | .ok (s, _) => s
  | .error _ => .empty

def created : Store := creation.after setUp

def sold : Store := sale.after created

theorem created_reachable : Reachable .forward ⟨5⟩ created :=
  ⟨⟨"owner", []⟩, setting, setUp, _, ⟨5⟩, _, rfl,
    .turn creation .start (by decide : (⟨5⟩ : Timestamp) ≤ ⟨5⟩)⟩

theorem sale_run : Run .forward ⟨5⟩ created [⟨sale, sale.response? created⟩] ⟨6⟩ sold :=
  .turn sale .start (by decide : (⟨5⟩ : Timestamp) ≤ ⟨6⟩)

theorem sold_reachable : Reachable .forward ⟨6⟩ sold := created_reachable.run sale_run

/-- The oracle answers once the raffle is closed. -/
def draw : Turn :=
  .execute (env 1000000005) ⟨"nois", []⟩
    (.receiveRandomness ⟨Job.id 0 0, ⟨1000000005⟩, List.replicate 32 7⟩)

def drawn : Store := draw.after sold

/-- Anyone settles the raffle. -/
def payout : Turn := .execute (env 1000000006) ⟨"anyone", []⟩ (.claim 0)

def paid : Store := payout.after drawn

/-- The steps until the winner is drawn. -/
def taken : List Step :=
  [⟨draw, draw.response? sold⟩, ⟨sale, sale.response? created⟩,
    ⟨creation, creation.response? setUp⟩]

theorem sold_recorded : Recorded .forward [⟨sale, sale.response? created⟩,
    ⟨creation, creation.response? setUp⟩] ⟨6⟩ sold :=
  ⟨⟨"owner", []⟩, setting, setUp, _, ⟨5⟩, rfl,
    .turn sale (.turn creation .start (by decide : (⟨5⟩ : Timestamp) ≤ ⟨5⟩))
      (by decide : (⟨5⟩ : Timestamp) ≤ ⟨6⟩)⟩

theorem drawn_recorded : Recorded .forward taken ⟨1000000005⟩ drawn :=
  sold_recorded.turn draw (by decide : (⟨6⟩ : Timestamp) ≤ ⟨1000000005⟩)

theorem paid_recorded : Recorded .forward (⟨payout, payout.response? drawn⟩ :: taken)
    ⟨1000000006⟩ paid :=
  drawn_recorded.turn payout (by decide : (⟨1000000005⟩ : Timestamp) ≤ ⟨1000000006⟩)

end Sample

end Tombola
