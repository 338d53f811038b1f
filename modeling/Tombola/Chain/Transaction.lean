import Tombola.Chain.Basic
import Tombola.Text.Blank

/-!
# Transactions

A transaction is a call of a contract by an account. The attached coins move first, then the
contract runs, and then its orders are carried out in turn, each as the contract's own. Nothing of a
transaction stays when any part of it fails.
-/

namespace Tombola.Chain

/-- How deep calls can be nested. -/
def callDepth : Nat := 8

/-- No attribute of a reply has a blank value. -/
def ensureAttributes (attributes : List Attribute) : Attempt Unit :=
  match attributes.find? fun a => Text.isBlank a.value with
  | some a => Attempt.fail (.blankAttribute a.key)
  | none => .ok ()

/-- Has a contract serve a packet. -/
def serve (c : Chain) (caller : Caller) : Party → Packet → Attempt (Chain × Reply)
  | .raffle, .raffle request => do
    let (store, response) ←
      Attempt.ofOutcome (Contract.execute c.raffle c.surroundings caller request)
    pure ({ c with raffle := store }, .ofResponse response)
  | .collection, .collection request => do
    let (collection, reply) ← c.collection.serve c.block caller.address request
    pure ({ c with collection }, reply)
  | .oracle, .oracle request => do
    let (oracle, reply) ← c.oracle.serve c.block.time caller.address caller.funds request
    pure ({ c with oracle }, reply)
  | _, _ => Attempt.fail (.refused .undecodable)

/-- The event of a contract that has accepted a packet, if there is anything to tell. -/
def replyEvents (address : Address) (attributes : List Attribute) : List Event :=
  if attributes.isEmpty then [] else [.contract address attributes]

/-- Carries out orders one after the other. -/
def inTurn (step : Chain → Order → Attempt (Chain × List Event)) :
    Chain → List Order → Attempt (Chain × List Event)
  | c, [] => pure (c, [])
  | c, order :: rest => do
    let (c, events) ← step c order
    let (c, later) ← inTurn step c rest
    pure (c, events ++ later)

/-- Carries out an order of the contract at an address, a call by the given means. -/
def carryOut
    (call : Chain → Address → Address → Packet → List Coin → Attempt (Chain × List Event))
    (contract : Address) (c : Chain) : Order → Attempt (Chain × List Event)
  | .send recipient coins => do
    let bank ← c.bank.transfer contract recipient coins
    pure ({ c with bank }, [.transfer recipient contract coins])
  | .call target packet funds => (call c contract target packet funds).nest

/-- Calls the contract at an address and carries out its orders. -/
def call : Nat → Chain → Address → Address → Packet → List Coin → Attempt (Chain × List Event)
  | 0, _, _, _, _, _ => Attempt.fail .tooDeep
  | depth + 1, c, sender, target, packet, funds => do
    let target ← Attempt.ofOutcome target.validate
    let bank ← c.bank.attach sender target funds
    match Party.at? target with
    | none => Attempt.fail (.noContract target)
    | some party =>
      let (c, reply) ← serve { c with bank } ⟨sender, funds⟩ party packet
      ensureAttributes reply.attributes
      let (c, events) ← inTurn (carryOut (call depth) target) c reply.orders
      pure (c, replyEvents target reply.attributes ++ events)

/-- A transaction of an account. -/
def execute (c : Chain) (sender : Address) (party : Party) (packet : Packet) (funds : List Coin) :
    Attempt (Chain × List Event) :=
  call callDepth c sender party.address packet funds

/-- The chain's governance orders something of the raffle contract; nothing when the order does not
decode. -/
def govern (c : Chain) (request : Option GovernanceRequest) : Attempt (Chain × List Event) := do
  match request with
  | none => Attempt.fail (.refused .undecodable)
  | some request =>
    let (store, response) ← Attempt.ofOutcome (Contract.govern c.raffle request)
    pure ({ c with raffle := store }, replyEvents Party.raffle.address response.attributes)

/-- The account that may replace the code of the raffle contract. -/
def admin : Address := "fee"

/-- The number of codes on the chain: that of the raffle contract is the first. -/
def codes : Nat := 3

/-- Replaces the code of the raffle contract; only its own code can take over. -/
def migrate (c : Chain) (sender : Address) (code : Nat) : Attempt (Chain × List Event) := do
  Attempt.ensure (code ≤ codes) (.migration .unregistered)
  Attempt.ensure (sender = admin) (.migration (.notAdmin admin))
  Attempt.ensure (code ≠ 0) (.migration .invalidCode)
  Attempt.ensure (code = 1) (.migration .unsupported)
  let (store, _) := Contract.migrate c.raffle
  pure ({ c with raffle := store }, [])

end Tombola.Chain
