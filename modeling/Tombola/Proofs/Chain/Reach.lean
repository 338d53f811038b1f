import Tombola.Chain.Genesis
import Tombola.Proofs.Accepted.Create
import Tombola.Proofs.Chain.Titles

/-!
# What can happen to the chain from outside

Accounts send transactions, the governance orders something, the code of the raffle contract is
replaced, coins are brought into being, and blocks pass in any order. What fails leaves the chain as
it was. Nobody outside acts in the name of the raffle contract or of the collection. A transaction
leads through three contracts at most, so the bound on the depth of calls is never met.
-/

namespace Tombola.Chain

open Attempt Contract
open Outcome (bind_eq_ok pure_eq_ok)

/-! ## The depth of calls -/

/-- How many calls a packet leads through at most, one inside the other. -/
def Packet.height : Packet → Nat
  | .raffle (.receiveRandomness _) => 1
  | .raffle (.deposit _) => 1
  | .raffle _ => 3
  | .collection (.send _ _ _) => 2
  | .collection _ => 1
  | .oracle _ => 2
  | .unreadable => 1

variable {c c' : Chain} {sender target : Address} {caller : Caller} {party : Party}
  {packet asked : Packet} {funds : List Coin} {reply : Reply} {depth : Nat}

theorem Packet.height_pos (packet : Packet) : 0 < packet.height := by
  unfold height
  split <;> decide

theorem Packet.height_le (packet : Packet) : packet.height ≤ 3 := by
  unfold height
  split <;> decide

/-- The contract asks the collection to transfer tokens, and the oracle for randomness. -/
theorem Packet.height_ofCall (call : Call) : (ofCall call).height < 3 := by
  cases call with
  | transferToken recipient token => exact (by decide : 1 < 3)
  | _ => exact (by decide : 2 < 3)

/-- What a contract orders leads less deep than what it was asked. -/
theorem Served.height_lt (h : Served c caller party packet c' reply)
    (horder : .call target asked funds ∈ reply.orders) : asked.height < packet.height := by
  cases h with
  | @raffle request store response hout =>
      obtain ⟨m, hm, hasked⟩ := List.mem_map.mp horder
      cases m with
      | send recipient coins => cases hasked
      | call contract call fee =>
          obtain ⟨rfl, rfl, rfl⟩ := Order.call.inj hasked
          have hcall := Packet.height_ofCall call
          cases request with
          | receiveRandomness answer =>
              obtain ⟨_, _, _, _, _, hmessages⟩ := receiveRandomness_eq_ok hout
              rw [hmessages] at hm
              cases hm
          | deposit d =>
              obtain ⟨_, _, _, _, _, _, _, _, _, _, _, _, hmessages⟩ := deposit_eq_ok hout
              rw [hmessages] at hm
              cases hm
          | _ => exact hcall
  | collection hserve =>
      rcases Collection.serve_orders hserve with hnone | ⟨_, _, _, rfl, hsent⟩
      · rw [hnone] at horder
        cases horder
      · rw [hsent] at horder
        obtain ⟨rfl, rfl, rfl⟩ := Order.call.inj (List.mem_singleton.mp horder)
        exact (by decide : 1 < 2)
  | oracle hserve =>
      rcases Oracle.serve_orders hserve with hnone | ⟨answer, hanswer⟩
      · rw [hnone] at horder
        cases horder
      · rw [hanswer] at horder
        obtain ⟨rfl, rfl, rfl⟩ := Order.call.inj (List.mem_singleton.mp horder)
        exact (by decide : 1 < 2)

/-- Beyond the height of the packet the bound on the depth makes no difference. -/
theorem call_succ (h : packet.height ≤ depth) :
    call (depth + 1) c sender target packet funds = call depth c sender target packet funds := by
  induction depth generalizing c sender target packet funds with
  | zero => exact absurd h (not_le.mpr packet.height_pos)
  | succ depth ih =>
      rw [call, call]
      refine Outcome.bind_congr fun target _ => Outcome.bind_congr fun bank _ => ?_
      cases Party.at? target with
      | none => rfl
      | some party =>
          refine Outcome.bind_congr fun served hserved => Outcome.bind_congr fun _ _ => ?_
          have horders : ∀ order ∈ served.2.orders, ∀ c,
              carryOut (call (depth + 1)) target c order =
                carryOut (call depth) target c order := by
            intro order horder c
            cases order with
            | send recipient coins => rfl
            | call next asked fee =>
                have hlt := (serve_eq_ok hserved).height_lt horder
                rw [carryOut, carryOut, ih (by omega)]
          exact congrArg (· >>= _) (inTurn_congr horders)

/-- A transaction does the same with every bound from three on. -/
theorem execute_eq_call (h : 3 ≤ depth) (c : Chain) (sender : Address) (party : Party)
    (packet : Packet) (funds : List Coin) :
    execute c sender party packet funds = call depth c sender party.address packet funds := by
  have hsame : ∀ {depth}, 3 ≤ depth → call depth c sender party.address packet funds =
      call 3 c sender party.address packet funds := by
    intro depth h
    induction depth, h using Nat.le_induction with
    | base => rfl
    | succ depth h ih => rw [call_succ (le_trans packet.height_le h), ih]
  rw [execute, hsame h, hsame (by decide : 3 ≤ callDepth)]

/-! ## Happenings -/

/-- One thing that happens to the chain. -/
inductive Happening where
  | transaction (sender : Address) (party : Party) (packet : Packet) (funds : List Coin)
  | governance (request : Option GovernanceRequest)
  | migration (sender : Address) (code : Nat)
  | funding (account : Address) (coins : List Coin)
  | block (next : Block)

namespace Happening

/-- The chain after a happening, or why it does not come about. -/
def outcome (c : Chain) : Happening → Attempt Chain
  | .transaction sender party packet funds => Prod.fst <$> execute c sender party packet funds
  | .governance request => Prod.fst <$> govern c request
  | .migration sender code => Prod.fst <$> migrate c sender code
  | .funding account coins => do
    let bank ← c.bank.mint account coins
    pure { c with bank }
  | .block next => pure { c with block := next }

/-- The chain afterwards. -/
def after (c : Chain) (e : Happening) : Chain :=
  match e.outcome c with
  | .ok c' => c'
  | .error _ => c

/-- No transaction is sent in the name of the raffle contract or the collection. The oracle's
answers come from outside, in its name. -/
def Genuine : Happening → Prop
  | .transaction sender _ _ _ => sender ≠ Party.raffle.address ∧ sender ≠ Party.collection.address
  | _ => True

instance : DecidablePred Genuine
  | .transaction sender _ _ _ => inferInstanceAs
      (Decidable (sender ≠ Party.raffle.address ∧ sender ≠ Party.collection.address))
  | .governance _ => .isTrue trivial
  | .migration _ _ => .isTrue trivial
  | .funding _ _ => .isTrue trivial
  | .block _ => .isTrue trivial

end Happening

/-- The chain has come about from a new one by genuine happenings. -/
inductive Reaches (setting : Setting) : Chain → Prop
  | start {c : Chain} (h : genesis setting = .ok c) : Reaches setting c
  | next {c : Chain} (h : Reaches setting c) (e : Happening) (genuine : e.Genuine) :
      Reaches setting (e.after c)

theorem Reaches.all {setting : Setting} {c : Chain} {es : List Happening} (h : Reaches setting c)
    (genuine : ∀ e ∈ es, e.Genuine) : Reaches setting (es.foldl Happening.after c) := by
  induction es generalizing c with
  | nil => exact h
  | cons e es ih =>
      obtain ⟨hfirst, hrest⟩ := List.forall_mem_cons.mp genuine
      exact ih (h.next e hfirst) hrest

/-- What a new chain has, and every happening that succeeds keeps, every chain has. -/
theorem Reaches.invariant {setting : Setting} {P : Chain → Prop} {c : Chain}
    (fresh : ∀ {c}, genesis setting = .ok c → P c)
    (keep : ∀ {c c'} (e : Happening), e.Genuine → e.outcome c = .ok c' → P c → P c')
    (h : Reaches setting c) : P c := by
  induction h with
  | start h => exact fresh h
  | @next c _ e genuine ih =>
      cases hout : e.outcome c with
      | ok c' =>
          rw [Happening.after, hout]
          exact keep e genuine hout ih
      | error trouble =>
          rw [Happening.after, hout]
          exact ih

/-- A new chain has a raffle contract that is just set up and no tokens. -/
theorem genesis_eq_ok {setting : Setting} {c : Chain} (h : genesis setting = .ok c) :
    c.raffle.raffles = ∅ ∧ c.collection = .empty := by
  obtain ⟨⟨store, response⟩, hsetup, h⟩ := Outcome.bind_eq_ok.mp h
  obtain ⟨config, _, rfl, _⟩ := Contract.setup_eq_ok hsetup
  obtain rfl := Outcome.pure_eq_ok.mp h
  exact ⟨rfl, rfl⟩

end Tombola.Chain
