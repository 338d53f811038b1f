import Tombola.Chain.Failure
import Tombola.Chain.Packet

/-!
# A token collection

Every token has one owner. It can be moved by its owner, by those approved for the token and by the
operators of its owner. When a token moves its approvals end, while operators stay with the owner.
-/

namespace Tombola.Chain

/-- Who has a token and who else may move it. -/
structure Title where
  owner : Address
  approvals : List Approval
  deriving DecidableEq

/-- The tokens that there are, and who may act for their owners. -/
structure Collection where
  tokens : Table TokenId Title
  /-- The operators of each owner. -/
  operators : Table Address (Table Address Expiration)

namespace Collection

/-- The account that brings tokens into being. -/
def minter : Address := "fee"

/-- A collection without tokens and operators. -/
def empty : Collection := ⟨∅, ∅⟩

/-- The collection refuses a request. -/
def refuse {α : Type} (flaw : CollectionFlaw) : Attempt α := Attempt.fail (.collection flaw)

/-- An address out of a request, which has to be a valid one. -/
def checked (a : Address) : Attempt Address := Attempt.ofOutcome a.validate

/-- Who has a token; an unknown token is refused. -/
def title (c : Collection) (token : TokenId) : Attempt Title :=
  match c.tokens.get? token with
  | some t => .ok t
  | none => refuse (.unknownToken token)

/-- Writes who has a token. -/
def putTitle (c : Collection) (token : TokenId) (t : Title) : Collection :=
  { c with tokens := c.tokens.insert token t }

/-- The operators of an owner, each with the end of its permission. -/
def operatorsOf (c : Collection) (owner : Address) : Table Address Expiration :=
  (c.operators.get? owner).getD ∅

/-- Writes the operators of an owner. -/
def putOperators (c : Collection) (owner : Address) (t : Table Address Expiration) : Collection :=
  { c with operators := c.operators.insert owner t }

/-- The account may do with all tokens of the owner what the owner may. -/
def isOperator (c : Collection) (block : Block) (owner account : Address) : Bool :=
  match (c.operatorsOf owner).get? account with
  | some expires => !block.isAfter expires
  | none => false

/-- The account may approve spenders of a token: its owner and the operators of the owner. -/
def mayApprove (c : Collection) (block : Block) (t : Title) (account : Address) : Bool :=
  account == t.owner || c.isOperator block t.owner account

/-- The account may move a token: whoever may approve spenders, and the spenders themselves. -/
def mayMove (c : Collection) (block : Block) (t : Title) (account : Address) : Bool :=
  c.mayApprove block t account ||
    t.approvals.any fun a => a.spender == account && !block.isAfter a.expires

/-- Moves a token to a recipient. -/
def move (c : Collection) (block : Block) (sender recipient : Address) (token : TokenId) :
    Attempt Collection := do
  let t ← c.title token
  Attempt.ensure (c.mayMove block t sender) (.collection .notAllowed)
  let owner ← checked recipient
  pure (c.putTitle token ⟨owner, []⟩)

/-- Ends a token, which can be minted anew then. -/
def burn (c : Collection) (block : Block) (sender : Address) (token : TokenId) :
    Attempt Collection := do
  let t ← c.title token
  Attempt.ensure (c.mayMove block t sender) (.collection .notAllowed)
  pure { c with tokens := c.tokens.erase token }

/-- Brings a token into being for an owner. Only the minter can, and no token twice. -/
def mint (c : Collection) (sender : Address) (token : TokenId) (owner : Address) :
    Attempt Collection := do
  Attempt.ensure (sender = minter) (.collection .notAllowed)
  let owner ← checked owner
  Attempt.ensure (c.tokens.get? token).isNone (.collection .alreadyClaimed)
  pure (c.putTitle token ⟨owner, []⟩)

/-- Approves a spender of a token in place of an earlier approval. -/
def approve (c : Collection) (block : Block) (sender spender : Address) (token : TokenId)
    (expires : Expiration) : Attempt Collection := do
  let t ← c.title token
  Attempt.ensure (c.mayApprove block t sender) (.collection .notAllowed)
  let spender ← checked spender
  Attempt.ensure (!block.isAfter expires) (.collection .alreadyExpired)
  let others := t.approvals.filter fun a => a.spender != spender
  pure (c.putTitle token { t with approvals := others ++ [⟨spender, expires⟩] })

/-- Ends the approval of a spender of a token. -/
def revoke (c : Collection) (block : Block) (sender spender : Address) (token : TokenId) :
    Attempt Collection := do
  let t ← c.title token
  Attempt.ensure (c.mayApprove block t sender) (.collection .notAllowed)
  let spender ← checked spender
  pure (c.putTitle token { t with approvals := t.approvals.filter fun a => a.spender != spender })

/-- Makes an account an operator of the sender. -/
def approveAll (c : Collection) (block : Block) (sender operator : Address)
    (expires : Expiration) : Attempt Collection := do
  Attempt.ensure (!block.isAfter expires) (.collection .alreadyExpired)
  let operator ← checked operator
  pure (c.putOperators sender ((c.operatorsOf sender).insert operator expires))

/-- Ends the permission of an operator of the sender. -/
def revokeAll (c : Collection) (sender operator : Address) : Attempt Collection := do
  let operator ← checked operator
  pure (c.putOperators sender ((c.operatorsOf sender).erase operator))

/-- Serves a request; a contract that is sent a token is called. -/
def serve (c : Collection) (block : Block) (sender : Address) :
    CollectionRequest → Attempt (Collection × Reply)
  | .mint token owner => do
    let c ← c.mint sender token owner
    pure (c, .of [("action", "mint"), ("minter", sender), ("owner", owner), ("token_id", token)] [])
  | .transfer recipient token => do
    let c ← c.move block sender recipient token
    pure (c, .of [("action", "transfer_nft"), ("sender", sender), ("recipient", recipient),
      ("token_id", token)] [])
  | .send contract token payload => do
    let c ← c.move block sender contract token
    pure (c, .of [("action", "send_nft"), ("sender", sender), ("recipient", contract),
      ("token_id", token)] [.call contract (.raffle (.deposit ⟨sender, token, payload⟩)) []])
  | .burn token => do
    let c ← c.burn block sender token
    pure (c, .of [("action", "burn"), ("sender", sender), ("token_id", token)] [])
  | .approve spender token expires => do
    let c ← c.approve block sender spender token (expires.getD .never)
    pure (c, .of [("action", "approve"), ("sender", sender), ("spender", spender),
      ("token_id", token)] [])
  | .revoke spender token => do
    let c ← c.revoke block sender spender token
    pure (c, .of [("action", "revoke"), ("sender", sender), ("spender", spender),
      ("token_id", token)] [])
  | .approveAll operator expires => do
    let c ← c.approveAll block sender operator (expires.getD .never)
    pure (c, .of [("action", "approve_all"), ("sender", sender), ("operator", operator)] [])
  | .revokeAll operator => do
    let c ← c.revokeAll sender operator
    pure (c, .of [("action", "revoke_all"), ("sender", sender), ("operator", operator)] [])

end Collection

end Tombola.Chain
