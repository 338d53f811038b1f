import Tombola.Proofs.Delivery
import Tombola.Proofs.Settlement

/-!
# Which tokens raffles have as prizes

A raffle that is neither cancelled nor claimed still has to hand out the tokens among its prizes. No
step adds tokens to a raffle that there is, a creation takes the tokens of the new raffle from the
caller, and the tokens of a raffle that is settled are named by it no more.
-/

namespace Tombola

open Contract

/-- The raffle under the id still has to hand out the token. -/
def Store.Names (s : Store) (id : RaffleId) (x : Token) : Prop :=
  ∃ r, s.raffles.get? id = some r ∧ r.Unsettled ∧ x ∈ Asset.tokens r.prizes

variable {s s' : Store} {t : Turn} {focus : Option RaffleId} {id other : RaffleId} {r : Raffle}
  {x : Token} {env : Surroundings} {caller : Caller} {response : Response}

theorem Store.names_congr (h : s'.raffles.get? id = s.raffles.get? id) :
    s'.Names id x ↔ s.Names id x := by
  rw [Names, Names, h]

theorem Store.Names.of_record (h : s.Names id x) (hr : s.raffles.get? id = some r) :
    r.Unsettled ∧ x ∈ Asset.tokens r.prizes := by
  obtain ⟨r₀, hr₀, hnames⟩ := h
  obtain rfl := Option.some.inj (hr.symm.trans hr₀)
  exact hnames

theorem Raffle.Revision.prizes {configured : Option Config} {now : Timestamp} {r' : Raffle}
    (h : r.Revision configured now r') : r'.prizes = r.prizes := by
  cases h <;> rfl

/-- A step that creates no raffle leaves no raffle with a token that it did not name before. -/
theorem Change.names (hc : Change s t focus s') (ht : t.creates = false) (h : s'.Names id x) :
    s.Names id x := by
  cases hc.raffle id with
  | same raffle _ _ => exact (Store.names_congr raffle).mp h
  | entered _ _ _ _ turn => exact absurd (ht.symm.trans turn) (by simp)
  | revised kept hrev raffle _ _ =>
      obtain ⟨_, hx⟩ := h.of_record raffle
      exact ⟨_, kept, hrev.unsettled, hrev.prizes ▸ hx⟩
  | sold hsale =>
      obtain ⟨hopen, hx⟩ := h.of_record hsale.record
      rw [unsettled_afterSale] at hopen
      rw [afterSale_prizes] at hx
      exact ⟨_, hsale.kept, hopen, hx⟩

theorem Turn.names (ht : t.creates = false) (hout : t.outcome s = .ok (s', response))
    (h : s'.Names id x) : s.Names id x := by
  obtain ⟨focus, hc⟩ := Turn.change hout
  exact hc.names ht h

namespace Contract

/-- Only the new raffle names tokens that its id did not name before. -/
theorem Creation.names {now : Timestamp} {config : Config} {request : CreateRequest}
    {owner : Address} (hnew : Creation s now config request owner id r s') (h : s'.Names other x) :
    s.Names other x ∨ other = id ∧ x ∈ Asset.tokens request.prizes := by
  by_cases hid : other = id
  · subst hid
    obtain ⟨_, hx⟩ := h.of_record hnew.record
    rw [hnew.entered] at hx
    exact .inr ⟨rfl, hx⟩
  · exact .inl ((Store.names_congr (hnew.agree hid).raffle).mp h)

theorem create_names {request : CreateRequest}
    (hcreate : create s env caller request = .ok (s', response)) :
    ∃ id, ∀ {other x}, s'.Names other x →
      s.Names other x ∨ other = id ∧ x ∈ Asset.tokens request.prizes := by
  obtain ⟨_, _, _, _, id, _, entered, hnew, _, _, _, hrest⟩ := create_eq_ok hcreate
  refine ⟨id, ?_⟩
  intro other x h
  rcases hrest with ⟨_, rfl, _⟩ | ⟨closing, _, hcycle, _⟩
  · exact hnew.names h
  · have hraffle : s'.raffles.get? other = entered.raffles.get? other := by
      rw [hcycle.store, raffles_requestRandomness]
    exact hnew.names ((Store.names_congr hraffle).mp h)

/-- Every token among the prizes of a new raffle is the caller's, and is moved to the contract. -/
theorem create_takes {request : CreateRequest}
    (hcreate : create s env caller request = .ok (s', response))
    (hx : x ∈ Asset.tokens request.prizes) :
    env.ownerOf x.collection x.id = .ok caller.address ∧
      ∃ m ∈ response.messages, m.moves? = some (env.self, x) := by
  obtain ⟨_, _, messages, _, _, _, _, _, _, hcollect, _, hrest⟩ := create_eq_ok hcreate
  obtain ⟨taken, left, htaken, hmessages⟩ := collect_eq_ok hcollect
  obtain ⟨prize, hprize, htoken⟩ := List.mem_filterMap.mp hx
  refine ⟨owner_of_takePrizes htaken hprize htoken, transfer env.self prize, ?_, ?_⟩
  · have hmem : transfer env.self prize ∈ taken := by
      rw [takePrizes_messages htaken]
      exact List.mem_map_of_mem (List.mem_filter.mpr ⟨hprize, by rw [htoken]; rfl⟩)
    have hcollected : transfer env.self prize ∈ messages := by
      rcases hmessages with rfl | ⟨_, _, rfl⟩
      · exact hmem
      · exact List.mem_append_left _ hmem
    rcases hrest with ⟨_, _, h⟩ | ⟨_, _, _, h⟩
    · exact h ▸ hcollected
    · exact h ▸ List.mem_append_left _ hcollected
  · cases prize with
    | coin c => cases htoken
    | _ =>
        obtain rfl := Option.some.inj htoken
        rfl

/-- A token that is handed out, beside other messages that move none, is among the prizes. -/
theorem moves_of_handed {receiver recipient : Address} {others : List Message} {m : Message}
    (hothers : ∀ m ∈ others, m.moves? = none) (hm : m ∈ prizeMessages r receiver ++ others)
    (hmoves : m.moves? = some (recipient, x)) : x ∈ Asset.tokens r.prizes := by
  rcases List.mem_append.mp hm with hm | hm
  · obtain ⟨prize, hprize, rfl⟩ := List.mem_map.mp hm
    cases prize with
    | coin c => cases hmoves
    | cw721 u =>
        obtain ⟨_, rfl⟩ := Prod.mk.inj (Option.some.inj hmoves)
        exact Asset.mem_tokens.mpr (.inl hprize)
    | sg721 u =>
        obtain ⟨_, rfl⟩ := Prod.mk.inj (Option.some.inj hmoves)
        exact Asset.mem_tokens.mpr (.inr hprize)
  · exact absurd ((hothers m hm).symm.trans hmoves) (by simp)

end Contract

/-- A step that settles a raffle moves only tokens that the raffle has named until then, and after
it the raffle names none. -/
theorem Turn.settles_names (ht : t.settles? = some id) (hout : t.outcome s = .ok (s', response)) :
    (∀ x, ¬s'.Names id x) ∧ ∀ m ∈ response.messages, ∀ receiver x,
      m.moves? = some (receiver, x) → s.Names id x := by
  cases t with
  | execute env caller request =>
      cases request with
      | cancel id =>
          obtain rfl := Option.some.inj ht
          obtain ⟨r, refunds, hcancel, hrefunds, hmessages⟩ := cancel_eq_ok hout
          have hopen := Raffle.unsettled_of_cancellable hcancel.cancellable
          constructor
          · intro x h
            exact absurd (h.of_record hcancel.record).1.1 (by simp)
          · intro m hm receiver x hmoves
            rw [hmessages] at hm
            refine ⟨r, hcancel.kept, hopen, moves_of_handed ?_ hm hmoves⟩
            intro m hm
            obtain ⟨p, _, refund, _, rfl⟩ := refund_of_mem hrefunds hm
            rfl
      | claim id =>
          obtain rfl := Option.some.inj ht
          obtain ⟨config, r, proceeds, hclaim, _, hproceeds, hmessages⟩ := claim_eq_ok hout
          obtain ⟨hopen, _⟩ := Raffle.phase?_eq_finished.mp hclaim.finished
          constructor
          · intro x h
            exact absurd (h.of_record hclaim.record).1.2 (by simp)
          · intro m hm receiver x hmoves
            rw [hmessages] at hm
            refine ⟨r, hclaim.kept, hopen, moves_of_handed ?_ hm hmoves⟩
            intro m hm
            obtain ⟨part, _, rfl | rfl⟩ := proceeds_of_mem hproceeds hm
            · rfl
            · rfl
      | _ => cases ht
  | govern _ _ => cases ht
  | migrate _ => cases ht

end Tombola
