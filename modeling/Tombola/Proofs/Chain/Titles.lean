import Tombola.Proofs.Chain.Calls

/-!
# What requests do to the titles of tokens

An account that has never approved anybody is the only one that can move its tokens: nobody has a
standing approval for one of them, since a token that moves loses its approvals, and nobody is its
operator. No request of others changes that, nor takes one of its tokens away.
-/

namespace Tombola.Chain

open Attempt
open Outcome (bind_eq_ok pure_eq_ok)

namespace Collection

/-- The owner of a token, if there is the token. -/
def owner? (c : Collection) (token : TokenId) : Option Address :=
  (c.tokens.get? token).map (·.owner)

/-- Nobody else may move the tokens of the account. -/
structure Exclusive (account : Address) (c : Collection) : Prop where
  operators : ∀ operator, (c.operatorsOf account).get? operator = none
  approvals : ∀ token t, c.tokens.get? token = some t → t.owner = account → t.approvals = []

variable {c c' : Collection} {block : Block} {sender account recipient : Address}
  {token other : TokenId} {t : Title} {request : CollectionRequest} {reply : Reply}

theorem checked_eq_ok {a b : Address} (h : checked a = .ok b) : a = b :=
  (Contract.validate_eq_ok.mp (ofOutcome_eq_ok.mp h)).2.symm

theorem title_eq_ok : c.title token = .ok t ↔ c.tokens.get? token = some t := by
  unfold title
  cases c.tokens.get? token with
  | none => simp [refuse, fail]
  | some t => simp

theorem owner?_putTitle (c : Collection) (token other : TokenId) (t : Title) :
    (c.putTitle token t).owner? other = if other = token then some t.owner else c.owner? other := by
  rw [owner?, putTitle, Table.get?_insert]
  split
  · rfl
  · rfl

/-- A token is moved to the recipient by one who may, and loses its approvals. -/
theorem move_eq_ok (h : c.move block sender recipient token = .ok c') :
    ∃ t, c.tokens.get? token = some t ∧ c.mayMove block t sender = true ∧
      c' = c.putTitle token ⟨recipient, []⟩ := by
  obtain ⟨t, htitle, h⟩ := bind_eq_ok.mp h
  obtain ⟨_, hmay, h⟩ := bind_eq_ok.mp h
  obtain ⟨a, hchecked, h⟩ := bind_eq_ok.mp h
  obtain rfl := checked_eq_ok hchecked
  exact ⟨t, title_eq_ok.mp htitle, ensure_eq_ok.mp hmay, (pure_eq_ok.mp h).symm⟩

theorem owner?_of_move (h : c.move block sender recipient token = .ok c') (other : TokenId) :
    c'.owner? other = if other = token then some recipient else c.owner? other := by
  obtain ⟨t, _, _, rfl⟩ := move_eq_ok h
  exact owner?_putTitle c token other _

namespace Exclusive

theorem isOperator (h : c.Exclusive account) (block : Block) (operator : Address) :
    c.isOperator block account operator = false := by
  rw [Collection.isOperator, h.operators]

/-- Whoever may approve for another account's token. -/
theorem ne_of_mayApprove (h : c.Exclusive account) (hne : sender ≠ account)
    (hmay : c.mayApprove block t sender = true) : t.owner ≠ account := by
  rintro rfl
  rw [mayApprove, h.isOperator, Bool.or_false, beq_iff_eq] at hmay
  exact hne hmay

/-- A token that another one may move is not the account's. -/
theorem ne_of_mayMove (h : c.Exclusive account) (ht : c.tokens.get? token = some t)
    (hne : sender ≠ account) (hmay : c.mayMove block t sender = true) : t.owner ≠ account := by
  intro howner
  rw [mayMove, h.approvals token t ht howner, List.any_nil, Bool.or_false] at hmay
  exact h.ne_of_mayApprove hne hmay howner

/-- A title is written that nobody has an approval for when it is the account's. -/
theorem putTitle (h : c.Exclusive account) (token : TokenId)
    (ht : t.owner = account → t.approvals = []) : (c.putTitle token t).Exclusive account where
  operators := h.operators
  approvals other t' ht' howner := by
    rw [Collection.putTitle, Table.get?_insert] at ht'
    split at ht'
    · obtain rfl := Option.some.inj ht'
      exact ht howner
    · exact h.approvals other t' ht' howner

theorem putOperators (h : c.Exclusive account) (hne : sender ≠ account)
    (operators : Table Address Expiration) :
    (c.putOperators sender operators).Exclusive account where
  operators operator := by
    rw [operatorsOf, Collection.putOperators, Table.get?_insert, if_neg hne.symm]
    exact h.operators operator
  approvals := h.approvals

theorem move (h : c.Exclusive account) (hmove : c.move block sender recipient token = .ok c') :
    c'.Exclusive account := by
  obtain ⟨t, _, _, rfl⟩ := move_eq_ok hmove
  exact h.putTitle token fun _ => rfl

end Exclusive

theorem burn_eq_ok (h : c.burn block sender token = .ok c') :
    ∃ t, c.tokens.get? token = some t ∧ c.mayMove block t sender = true ∧
      c' = { c with tokens := c.tokens.erase token } := by
  obtain ⟨t, htitle, h⟩ := bind_eq_ok.mp h
  obtain ⟨_, hmay, h⟩ := bind_eq_ok.mp h
  exact ⟨t, title_eq_ok.mp htitle, ensure_eq_ok.mp hmay, (pure_eq_ok.mp h).symm⟩

/-- Only a token that there is not yet is minted. -/
theorem mint_eq_ok (h : c.mint sender token recipient = .ok c') :
    c.tokens.get? token = none ∧ c' = c.putTitle token ⟨recipient, []⟩ := by
  obtain ⟨_, _, h⟩ := bind_eq_ok.mp h
  obtain ⟨a, hchecked, h⟩ := bind_eq_ok.mp h
  obtain rfl := checked_eq_ok hchecked
  obtain ⟨_, hnew, h⟩ := bind_eq_ok.mp h
  exact ⟨Option.isNone_iff_eq_none.mp (ensure_eq_ok.mp hnew), (pure_eq_ok.mp h).symm⟩

/-- An approval is given by one who may, and leaves the owner. -/
theorem approve_eq_ok {spender : Address} {expires : Expiration}
    (h : c.approve block sender spender token expires = .ok c') :
    ∃ t approvals, c.tokens.get? token = some t ∧ c.mayApprove block t sender = true ∧
      c' = c.putTitle token { t with approvals } := by
  obtain ⟨t, htitle, h⟩ := bind_eq_ok.mp h
  obtain ⟨_, hmay, h⟩ := bind_eq_ok.mp h
  obtain ⟨_, _, h⟩ := bind_eq_ok.mp h
  obtain ⟨_, _, h⟩ := bind_eq_ok.mp h
  exact ⟨t, _, title_eq_ok.mp htitle, ensure_eq_ok.mp hmay, (pure_eq_ok.mp h).symm⟩

theorem revoke_eq_ok {spender : Address} (h : c.revoke block sender spender token = .ok c') :
    ∃ t approvals, c.tokens.get? token = some t ∧ c.mayApprove block t sender = true ∧
      c' = c.putTitle token { t with approvals } := by
  obtain ⟨t, htitle, h⟩ := bind_eq_ok.mp h
  obtain ⟨_, hmay, h⟩ := bind_eq_ok.mp h
  obtain ⟨_, _, h⟩ := bind_eq_ok.mp h
  exact ⟨t, _, title_eq_ok.mp htitle, ensure_eq_ok.mp hmay, (pure_eq_ok.mp h).symm⟩

theorem approveAll_eq_ok {operator : Address} {expires : Expiration}
    (h : c.approveAll block sender operator expires = .ok c') :
    ∃ operators, c' = c.putOperators sender operators := by
  obtain ⟨_, _, h⟩ := bind_eq_ok.mp h
  obtain ⟨_, _, h⟩ := bind_eq_ok.mp h
  exact ⟨_, (pure_eq_ok.mp h).symm⟩

theorem revokeAll_eq_ok {operator : Address} (h : c.revokeAll sender operator = .ok c') :
    ∃ operators, c' = c.putOperators sender operators := by
  obtain ⟨_, _, h⟩ := bind_eq_ok.mp h
  exact ⟨_, (pure_eq_ok.mp h).symm⟩

/-! ## What others leave to an account -/

/-- What is left to the account: its tokens, which nobody else may move. -/
structure Leaves (account : Address) (c c' : Collection) : Prop where
  exclusive : c'.Exclusive account
  kept : ∀ token, c.owner? token = some account → c'.owner? token = some account

namespace Leaves

/-- The title of a token that is not the account's is written. -/
theorem of_putTitle (h : c.Exclusive account) (hother : c.owner? token ≠ some account)
    (ht : t.owner = account → t.approvals = []) : Leaves account c (c.putTitle token t) where
  exclusive := h.putTitle token ht
  kept other hother' := by
    rw [owner?_putTitle]
    split
    · next heq => exact absurd (heq ▸ hother') hother
    · exact hother'

theorem of_putOperators (h : c.Exclusive account) (hne : sender ≠ account)
    (operators : Table Address Expiration) :
    Leaves account c (c.putOperators sender operators) where
  exclusive := h.putOperators hne operators
  kept _ howner := howner

theorem of_erase (h : c.Exclusive account) (hother : c.owner? token ≠ some account) :
    Leaves account c { c with tokens := c.tokens.erase token } where
  exclusive := by
    refine ⟨h.operators, ?_⟩
    intro other t ht
    rw [Table.get?_erase] at ht
    split at ht
    · cases ht
    · exact h.approvals other t ht
  kept other hother' := by
    rw [owner?, Table.get?_erase]
    split
    · next heq => exact absurd (heq ▸ hother') hother
    · exact hother'

end Leaves

theorem owner?_ne (ht : c.tokens.get? token = some t) (hne : t.owner ≠ account) :
    c.owner? token ≠ some account := by
  rw [owner?, ht]
  exact fun h => hne (Option.some.inj h)

/-- A token that somebody else moves was not the account's. -/
theorem leaves_of_move (h : c.Exclusive account) (hne : sender ≠ account)
    (hmove : c.move block sender recipient token = .ok c') :
    Leaves account c c' ∧ c.owner? token ≠ some account := by
  obtain ⟨t, ht, hmay, rfl⟩ := move_eq_ok hmove
  have hother := owner?_ne ht (h.ne_of_mayMove ht hne hmay)
  exact ⟨.of_putTitle h hother fun _ => rfl, hother⟩

/-- Only a token that is sent to a contract brings an order with it. -/
theorem serve_orders (h : c.serve block sender request = .ok (c', reply)) : reply.orders = [] ∨
    ∃ contract token payload, request = .send contract token payload ∧
      reply.orders = [.call contract (.raffle (.deposit ⟨sender, token, payload⟩)) []] := by
  cases request
  case send contract token payload =>
    obtain ⟨_, _, h⟩ := bind_eq_ok.mp h
    obtain ⟨_, rfl⟩ := Prod.mk.inj (pure_eq_ok.mp h)
    exact .inr ⟨contract, token, payload, rfl, rfl⟩
  all_goals
    obtain ⟨_, _, h⟩ := bind_eq_ok.mp h
    obtain ⟨_, rfl⟩ := Prod.mk.inj (pure_eq_ok.mp h)
    exact .inl rfl

/-- No request of others takes a token from an account whose tokens nobody else may move. Only a
token that is sent to a contract brings an order with it, and that token was not the account's. -/
theorem serve_leaves (h : c.Exclusive account) (hne : sender ≠ account)
    (hserve : c.serve block sender request = .ok (c', reply)) :
    Leaves account c c' ∧ (reply.orders = [] ∨ ∃ contract token payload,
      reply.orders = [.call contract (.raffle (.deposit ⟨sender, token, payload⟩)) []] ∧
      c.owner? token ≠ some account ∧ c'.owner? token = some contract) := by
  cases request with
  | mint token owner =>
      obtain ⟨c₁, hmint, hserve⟩ := bind_eq_ok.mp hserve
      obtain ⟨rfl, rfl⟩ := Prod.mk.inj (pure_eq_ok.mp hserve)
      obtain ⟨hnew, rfl⟩ := mint_eq_ok hmint
      have hother : c.owner? token ≠ some account := by simp [owner?, hnew]
      exact ⟨.of_putTitle h hother fun _ => rfl, .inl rfl⟩
  | transfer recipient token =>
      obtain ⟨c₁, hmove, hserve⟩ := bind_eq_ok.mp hserve
      obtain ⟨rfl, rfl⟩ := Prod.mk.inj (pure_eq_ok.mp hserve)
      exact ⟨(leaves_of_move h hne hmove).1, .inl rfl⟩
  | send contract token payload =>
      obtain ⟨c₁, hmove, hserve⟩ := bind_eq_ok.mp hserve
      obtain ⟨rfl, rfl⟩ := Prod.mk.inj (pure_eq_ok.mp hserve)
      obtain ⟨hleaves, hother⟩ := leaves_of_move h hne hmove
      refine ⟨hleaves, .inr ⟨contract, token, payload, rfl, hother, ?_⟩⟩
      rw [owner?_of_move hmove, if_pos rfl]
  | burn token =>
      obtain ⟨c₁, hburn, hserve⟩ := bind_eq_ok.mp hserve
      obtain ⟨rfl, rfl⟩ := Prod.mk.inj (pure_eq_ok.mp hserve)
      obtain ⟨t, ht, hmay, rfl⟩ := burn_eq_ok hburn
      exact ⟨.of_erase h (owner?_ne ht (h.ne_of_mayMove ht hne hmay)), .inl rfl⟩
  | approve spender token expires =>
      obtain ⟨c₁, happrove, hserve⟩ := bind_eq_ok.mp hserve
      obtain ⟨rfl, rfl⟩ := Prod.mk.inj (pure_eq_ok.mp hserve)
      obtain ⟨t, approvals, ht, hmay, rfl⟩ := approve_eq_ok happrove
      have howner := h.ne_of_mayApprove hne hmay
      exact ⟨.of_putTitle h (owner?_ne ht howner) fun h' => absurd h' howner, .inl rfl⟩
  | revoke spender token =>
      obtain ⟨c₁, hrevoke, hserve⟩ := bind_eq_ok.mp hserve
      obtain ⟨rfl, rfl⟩ := Prod.mk.inj (pure_eq_ok.mp hserve)
      obtain ⟨t, approvals, ht, hmay, rfl⟩ := revoke_eq_ok hrevoke
      have howner := h.ne_of_mayApprove hne hmay
      exact ⟨.of_putTitle h (owner?_ne ht howner) fun h' => absurd h' howner, .inl rfl⟩
  | approveAll operator expires =>
      obtain ⟨c₁, happrove, hserve⟩ := bind_eq_ok.mp hserve
      obtain ⟨rfl, rfl⟩ := Prod.mk.inj (pure_eq_ok.mp hserve)
      obtain ⟨operators, rfl⟩ := approveAll_eq_ok happrove
      exact ⟨.of_putOperators h hne operators, .inl rfl⟩
  | revokeAll operator =>
      obtain ⟨c₁, hrevoke, hserve⟩ := bind_eq_ok.mp hserve
      obtain ⟨rfl, rfl⟩ := Prod.mk.inj (pure_eq_ok.mp hserve)
      obtain ⟨operators, rfl⟩ := revokeAll_eq_ok hrevoke
      exact ⟨.of_putOperators h hne operators, .inl rfl⟩

end Collection

end Tombola.Chain
