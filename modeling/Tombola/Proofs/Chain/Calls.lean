import Mathlib
import Tombola.Chain.Transaction
import Tombola.Proofs.Accepted.Settings

/-!
# What a call that goes through has done

A call finds a contract at the address, has it serve the packet, and carries out the contract's
orders one after the other. What each order keeps, with the orders that are still to come, all of
them keep.
-/

namespace Tombola.Chain

namespace Attempt

variable {α : Type}

theorem fail_ne_ok {cause : Failure} {a : α} : (fail cause : Attempt α) ≠ .ok a := by
  simp [fail]

theorem ensure_eq_ok {condition : Bool} {cause : Failure} {u : Unit} :
    ensure condition cause = .ok u ↔ condition = true := by
  cases condition <;> simp [ensure, fail]

theorem ofOutcome_eq_ok {x : Outcome α} {a : α} : ofOutcome x = .ok a ↔ x = .ok a := by
  cases x with
  | ok b => simp [ofOutcome]
  | error fault => cases fault <;> simp [ofOutcome, fail]

theorem nest_eq_ok {x : Attempt α} {a : α} : x.nest = .ok a ↔ x = .ok a := by
  cases x with
  | ok b => simp [nest]
  | error trouble => cases trouble <;> simp [nest]

end Attempt

open Attempt
open Outcome (bind_eq_ok pure_eq_ok)

variable {c c' : Chain} {sender target : Address} {packet : Packet} {funds : List Coin}
  {caller : Caller} {party : Party} {reply : Reply} {events : List Event} {orders : List Order}

theorem Party.at?_eq_some {a : Address} : at? a = some party ↔ a = party.address := by
  constructor
  · intro h
    have hfound := List.find?_some h
    exact (beq_iff_eq.mp hfound).symm
  · rintro rfl
    cases party <;> decide

/-- What each order keeps together with the orders that are still to come, the orders keep. -/
theorem inTurn_keeps {step : Chain → Order → Attempt (Chain × List Event)}
    {P : List Order → Chain → Prop}
    (hstep : ∀ {order rest c c' events}, P (order :: rest) c → step c order = .ok (c', events) →
      P rest c')
    (h : inTurn step c orders = .ok (c', events)) (hc : P orders c) : P [] c' := by
  induction orders generalizing c events with
  | nil =>
      obtain ⟨rfl, _⟩ := Prod.mk.inj (pure_eq_ok.mp h)
      exact hc
  | cons order rest ih =>
      obtain ⟨⟨c₁, _⟩, hfirst, h⟩ := bind_eq_ok.mp h
      obtain ⟨⟨c₂, _⟩, hrest, h⟩ := bind_eq_ok.mp h
      obtain ⟨rfl, _⟩ := Prod.mk.inj (pure_eq_ok.mp h)
      exact ih hrest (hstep hc hfirst)

/-- Orders that are carried out alike are carried out alike in turn. -/
theorem inTurn_congr {step step' : Chain → Order → Attempt (Chain × List Event)}
    (h : ∀ order ∈ orders, ∀ c, step c order = step' c order) :
    inTurn step c orders = inTurn step' c orders := by
  induction orders generalizing c with
  | nil => rfl
  | cons order rest ih =>
      obtain ⟨hfirst, hrest⟩ := List.forall_mem_cons.mp h
      simp only [inTurn, hfirst, ih hrest]

theorem inTurn_singleton {step : Chain → Order → Attempt (Chain × List Event)} {order : Order}
    (h : inTurn step c [order] = .ok (c', events)) :
    ∃ first, step c order = .ok (c', first) := by
  obtain ⟨⟨c₁, first⟩, hfirst, h⟩ := bind_eq_ok.mp h
  obtain ⟨rfl, _⟩ := Prod.mk.inj (pure_eq_ok.mp h)
  exact ⟨first, hfirst⟩

/-- The oracle orders nothing but an answer to whoever has asked. -/
theorem Oracle.serve_orders {o o' : Oracle} {now : Timestamp} {asked : OracleRequest}
    (h : o.serve now sender funds asked = .ok (o', reply)) : reply.orders = [] ∨
      ∃ answer, reply.orders = [.call sender (.raffle (.receiveRandomness answer)) []] := by
  obtain ⟨_, _, h⟩ := bind_eq_ok.mp h
  cases asked with
  | after time job =>
      obtain ⟨_, rfl⟩ := Prod.mk.inj (pure_eq_ok.mp h)
      exact .inl rfl
  | next job =>
      have hreply := pure_eq_ok.mp h
      split at hreply
      · obtain ⟨_, rfl⟩ := Prod.mk.inj hreply
        exact .inr ⟨_, rfl⟩
      · obtain ⟨_, rfl⟩ := Prod.mk.inj hreply
        exact .inl rfl

/-- What a contract does that serves a packet: the packet is one for it, and it changes nothing but
its own state. -/
inductive Served (c : Chain) (caller : Caller) : Party → Packet → Chain → Reply → Prop
  | raffle {request store response}
      (h : Contract.execute c.raffle c.surroundings caller request = .ok (store, response)) :
      Served c caller .raffle (.raffle request) { c with raffle := store } (.ofResponse response)
  | collection {request collection reply}
      (h : c.collection.serve c.block caller.address request = .ok (collection, reply)) :
      Served c caller .collection (.collection request) { c with collection } reply
  | oracle {request oracle reply}
      (h : c.oracle.serve c.block.time caller.address caller.funds request = .ok (oracle, reply)) :
      Served c caller .oracle (.oracle request) { c with oracle } reply

theorem serve_eq_ok (h : serve c caller party packet = .ok (c', reply)) :
    Served c caller party packet c' reply := by
  cases party <;> cases packet
  case raffle.raffle request =>
    obtain ⟨⟨store, response⟩, hserved, h⟩ := bind_eq_ok.mp h
    obtain ⟨rfl, rfl⟩ := Prod.mk.inj (pure_eq_ok.mp h)
    exact .raffle (ofOutcome_eq_ok.mp hserved)
  case collection.collection request =>
    obtain ⟨⟨collection, reply⟩, hserved, h⟩ := bind_eq_ok.mp h
    obtain ⟨rfl, rfl⟩ := Prod.mk.inj (pure_eq_ok.mp h)
    exact .collection hserved
  case oracle.oracle request =>
    obtain ⟨⟨oracle, reply⟩, hserved, h⟩ := bind_eq_ok.mp h
    obtain ⟨rfl, rfl⟩ := Prod.mk.inj (pure_eq_ok.mp h)
    exact .oracle hserved
  all_goals exact absurd h fail_ne_ok

/-- A call that goes through has reached a contract, which has served the packet once the coins had
moved, and whose orders have been carried out. -/
theorem call_eq_ok {depth : Nat}
    (h : call (depth + 1) c sender target packet funds = .ok (c', events)) :
    ∃ party bank served reply later, target = party.address ∧
      Served { c with bank } ⟨sender, funds⟩ party packet served reply ∧
      inTurn (carryOut (call depth) target) served reply.orders = .ok (c', later) := by
  unfold call at h
  obtain ⟨address, htarget, h⟩ := bind_eq_ok.mp h
  obtain rfl := (Contract.validate_eq_ok.mp (ofOutcome_eq_ok.mp htarget)).2.symm
  obtain ⟨bank, _, h⟩ := bind_eq_ok.mp h
  cases hparty : Party.at? target with
  | none =>
      rw [hparty] at h
      exact absurd h fail_ne_ok
  | some party =>
      rw [hparty] at h
      obtain ⟨⟨served, reply⟩, hserved, h⟩ := bind_eq_ok.mp h
      obtain ⟨_, _, h⟩ := bind_eq_ok.mp h
      obtain ⟨⟨c₁, later⟩, hcarried, h⟩ := bind_eq_ok.mp h
      obtain ⟨rfl, _⟩ := Prod.mk.inj (pure_eq_ok.mp h)
      exact ⟨party, bank, served, reply, later, Party.at?_eq_some.mp hparty, serve_eq_ok hserved,
        hcarried⟩

theorem carryOut_send_eq_ok
    {call : Chain → Address → Address → Packet → List Coin → Attempt (Chain × List Event)}
    {contract recipient : Address} {coins : List Coin}
    (h : carryOut call contract c (.send recipient coins) = .ok (c', events)) :
    ∃ bank, c' = { c with bank } := by
  obtain ⟨bank, _, h⟩ := bind_eq_ok.mp h
  obtain ⟨rfl, _⟩ := Prod.mk.inj (pure_eq_ok.mp h)
  exact ⟨bank, rfl⟩

end Tombola.Chain
