import Tombola.Asset
import Tombola.Timestamp

/-!
# Ownership of tokens

What a collection tells about a token: its owner and who else may move it for the time being.
-/

namespace Tombola

/-- When a permission ends: at a height or a time of the chain, or not at all. -/
inductive Expiration where
  | atHeight (height : UInt64)
  | atTime (time : Timestamp)
  | never
  deriving DecidableEq

/-- Who may move a token, and until when. -/
structure Approval where
  spender : Address
  expires : Expiration
  deriving DecidableEq

/-- The owner of a token and those approved for it. -/
structure OwnerReport where
  owner : Address
  approvals : List Approval
  deriving DecidableEq

end Tombola
