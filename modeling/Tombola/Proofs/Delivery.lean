import Tombola.Proofs.Accepted.Create
import Tombola.Proofs.History

/-!
# Which prizes can be delivered

A collection lets the contract move a token as long as the contract has it. Prizes are told apart by
their standard too, so one token can be taken in twice, as a token of either standard. Of such
prizes the second can not be delivered any more once the first is; all others can.
-/

namespace Tombola

open Contract

/-- Who has each token. -/
abbrev Holders := Token → Address

/-- Carries out a message of the contract: a token moves if the contract has it, and everything else
goes through without moving a token. -/
def Message.deliver? (self : Address) (holders : Holders) : Message → Option Holders
  | .call collection (.transferToken receiver id) _ =>
    if holders ⟨collection, id⟩ = self then
      some (Function.update holders ⟨collection, id⟩ receiver)
    else none
  | _ => some holders

/-- Carries out messages of the contract in order. -/
def deliver? (self : Address) (holders : Holders) (messages : List Message) : Option Holders :=
  messages.foldlM (Message.deliver? self) holders

/-- The tokens among prizes, in order. -/
def Asset.tokens (prizes : List Asset) : List Token := prizes.filterMap token?

/-- No token is a prize under both standards. -/
def Asset.OneStandard (prizes : List Asset) : Prop :=
  ∀ t, ¬(.cw721 t ∈ prizes ∧ .sg721 t ∈ prizes)

variable {self receiver : Address} {holders holders' : Holders} {prizes : List Asset} {t : Token}

namespace Asset

@[simp] theorem tokens_coin (c : Coin) (prizes : List Asset) :
    tokens (.coin c :: prizes) = tokens prizes := rfl

@[simp] theorem tokens_cw721 (t : Token) (prizes : List Asset) :
    tokens (.cw721 t :: prizes) = t :: tokens prizes := rfl

@[simp] theorem tokens_sg721 (t : Token) (prizes : List Asset) :
    tokens (.sg721 t :: prizes) = t :: tokens prizes := rfl

theorem mem_tokens : t ∈ tokens prizes ↔ .cw721 t ∈ prizes ∨ .sg721 t ∈ prizes := by
  rw [tokens, List.mem_filterMap]
  constructor
  · rintro ⟨prize, hmem, htoken⟩
    cases prize with
    | coin c => cases htoken
    | cw721 u =>
        obtain rfl := Option.some.inj htoken
        exact .inl hmem
    | sg721 u =>
        obtain rfl := Option.some.inj htoken
        exact .inr hmem
  · rintro (hmem | hmem)
    · exact ⟨_, hmem, rfl⟩
    · exact ⟨_, hmem, rfl⟩

/-- Two different assets with the same token name it under both standards. -/
theorem standards_of_token {a b : Asset} (ha : a.token? = some t) (hb : b.token? = some t)
    (hne : a ≠ b) : a = .cw721 t ∧ b = .sg721 t ∨ a = .sg721 t ∧ b = .cw721 t := by
  cases a with
  | coin c => cases ha
  | cw721 u =>
      obtain rfl := Option.some.inj ha
      cases b with
      | coin c => cases hb
      | cw721 v => exact absurd (congrArg cw721 (Option.some.inj hb).symm) hne
      | sg721 v => exact .inl ⟨rfl, congrArg sg721 (Option.some.inj hb)⟩
  | sg721 u =>
      obtain rfl := Option.some.inj ha
      cases b with
      | coin c => cases hb
      | cw721 v => exact .inr ⟨rfl, congrArg cw721 (Option.some.inj hb)⟩
      | sg721 v => exact absurd (congrArg sg721 (Option.some.inj hb).symm) hne

/-- Prizes that are told apart name a token twice only under both standards. -/
theorem nodup_tokens_iff (h : allDistinct prizes) : (tokens prizes).Nodup ↔ OneStandard prizes := by
  have hnodup : prizes.Nodup := List.Nodup.of_map _ (of_decide_eq_true h)
  rw [tokens, List.Nodup, List.pairwise_filterMap]
  constructor
  · rintro hpairs t ⟨hcw, hsg⟩
    have hsymm : Std.Symm fun a b : Asset =>
        ∀ u, a.token? = some u → ∀ v, b.token? = some v → u ≠ v :=
      ⟨fun a b hab u hu v hv => (hab v hv u hu).symm⟩
    exact hpairs.forall hcw hsg Asset.noConfusion t rfl t rfl rfl
  · intro hone
    refine hnodup.pairwise_of_forall_ne ?_
    intro a ha b hb hne t hta u htb htu
    subst htu
    rcases standards_of_token hta htb hne with ⟨rfl, rfl⟩ | ⟨rfl, rfl⟩
    · exact hone t ⟨ha, hb⟩
    · exact hone t ⟨hb, ha⟩

end Asset

/-! ## Carrying out transfers -/

/-- Handing out a token takes it away from the contract. -/
theorem deliver?_token (collection : Address) (id : TokenId) (funds : List Coin)
    (ms : List Message) :
    deliver? self holders (.call collection (.transferToken receiver id) funds :: ms) =
      if holders ⟨collection, id⟩ = self then
        deliver? self (Function.update holders ⟨collection, id⟩ receiver) ms
      else none := by
  rw [deliver?, List.foldlM_cons, Message.deliver?]
  split <;> rfl

/-- After a token has left, the contract has all others exactly when it is not one of them. -/
theorem held_update_iff (hne : receiver ≠ self) {ts : List Token} :
    (∀ u ∈ ts, Function.update holders t receiver u = self) ↔
      t ∉ ts ∧ ∀ u ∈ ts, holders u = self := by
  constructor
  · intro h
    have hnew : t ∉ ts := by
      intro hmem
      have hself := h t hmem
      rw [Function.update_self] at hself
      exact hne hself
    refine ⟨hnew, fun u hu => ?_⟩
    rw [← h u hu, Function.update_of_ne (ne_of_mem_of_not_mem hu hnew)]
  · rintro ⟨hnew, h⟩ u hu
    rw [Function.update_of_ne (ne_of_mem_of_not_mem hu hnew), h u hu]

/-- The receiver has one token more. -/
theorem handed_cons (t : Token) (ts : List Token) :
    (fun u => if u ∈ ts then receiver else Function.update holders t receiver u) =
      fun u => if u ∈ t :: ts then receiver else holders u := by
  funext u
  by_cases hu : u = t
  · subst hu
    rw [Function.update_self, ite_self, if_pos List.mem_cons_self]
  · rw [Function.update_of_ne hu]
    simp only [List.mem_cons, hu, false_or]

/-- Prizes reach a receiver exactly when the contract has every token among them, and none is named
twice; the receiver has them all then. -/
theorem deliver?_transfers (hne : receiver ≠ self) :
    deliver? self holders (prizes.map (transfer receiver)) = some holders' ↔
      (∀ u ∈ Asset.tokens prizes, holders u = self) ∧ (Asset.tokens prizes).Nodup ∧
        (fun u => if u ∈ Asset.tokens prizes then receiver else holders u) = holders' := by
  induction prizes generalizing holders with
  | nil => simp [deliver?, Asset.tokens]
  | cons prize rest ih =>
      have htoken : ∀ t : Token, deliver? self holders
          (.call t.collection (.transferToken receiver t.id) [] ::
            rest.map (transfer receiver)) = some holders' ↔
          (∀ u ∈ t :: Asset.tokens rest, holders u = self) ∧ (t :: Asset.tokens rest).Nodup ∧
            (fun u => if u ∈ t :: Asset.tokens rest then receiver else holders u) = holders' := by
        intro t
        rw [deliver?_token, Option.ite_none_right_eq_some, ih, held_update_iff hne, handed_cons,
          List.forall_mem_cons, List.nodup_cons]
        tauto
      cases prize with
      | coin c => exact ih
      | cw721 t => exact htoken t
      | sg721 t => exact htoken t

/-- The raffle that an accepted request leaves behind has the prizes of the request. -/
theorem create_keeps_prizes {s s' : Store} {env : Surroundings} {caller : Caller}
    {r : CreateRequest} {response : Response}
    (h : execute s env caller (.create r) = .ok (s', response)) :
    ∃ id raffle, s'.raffles.get? id = some raffle ∧ raffle.prizes = r.prizes ∧
      Asset.allDistinct r.prizes := by
  obtain ⟨_, _, _, _, id, raffle, _, hnew, _, _, _, hrest⟩ := create_eq_ok h
  have hprizes : raffle.prizes = r.prizes := by rw [hnew.entered]
  refine ⟨id, raffle, ?_, hprizes, hnew.prizes.2.1⟩
  rcases hrest with ⟨_, rfl, _⟩ | ⟨_, _, hcycle, _⟩
  · exact hnew.record
  · exact hcycle.record hnew.record

/-- When the contract has all tokens among the prizes of an accepted request, they can be delivered
to anyone else exactly when no token is named under both standards. The receiver has all of them
then, and no other token has moved. -/
theorem accepted_delivered_iff_one_standard {s s' : Store} {env : Surroundings} {caller : Caller}
    {r : CreateRequest} {response : Response}
    (haccepted : execute s env caller (.create r) = .ok (s', response)) (receiver : Address)
    (hne : receiver ≠ env.self) (holders : Holders)
    (hheld : ∀ t ∈ Asset.tokens r.prizes, holders t = env.self) :
    ∃ id raffle, s'.raffles.get? id = some raffle ∧ raffle.prizes = r.prizes ∧
      ((∃ holders', deliver? env.self holders (prizeMessages raffle receiver) = some holders') ↔
        Asset.OneStandard r.prizes) ∧
      ∀ holders', deliver? env.self holders (prizeMessages raffle receiver) = some holders' →
        ∀ t, holders' t = if t ∈ Asset.tokens r.prizes then receiver else holders t := by
  obtain ⟨id, raffle, hraffle, hprizes, hdistinct⟩ := create_keeps_prizes haccepted
  refine ⟨id, raffle, hraffle, hprizes, ?_, ?_⟩
  · rw [prizeMessages, hprizes, ← Asset.nodup_tokens_iff hdistinct]
    constructor
    · rintro ⟨holders', hdelivered⟩
      exact ((deliver?_transfers hne).mp hdelivered).2.1
    · intro hnodup
      exact ⟨_, (deliver?_transfers hne).mpr ⟨hheld, hnodup, rfl⟩⟩
  · intro holders' hdelivered t
    rw [prizeMessages, hprizes] at hdelivered
    obtain ⟨_, _, rfl⟩ := (deliver?_transfers hne).mp hdelivered
    rfl

namespace Sample

/-- One token, named under both standards. -/
def twice : CreateRequest := { raffle with
  prizes := [.cw721 ⟨"punks", "1"⟩, .sg721 ⟨"punks", "1"⟩]
  autocycle := none }

/-- A time at which every token is said to be the owner's. -/
def ownersEnv : Surroundings := { env 5 with ownerOf := fun _ _ => .ok "owner" }

end Sample

/-- A raffle with the same token under both standards is accepted, and its prizes can not be handed
to the buyer. -/
theorem twice_sample_not_delivered : ∃ s' response id r,
    execute Sample.setUp Sample.ownersEnv ⟨"owner", []⟩ (.create Sample.twice) =
      .ok (s', response) ∧
    s'.raffles.get? id = some r ∧ r.prizes = Sample.twice.prizes ∧
    deliver? "raffles" (fun _ => "raffles") (prizeMessages r "buyer") = none := by
  obtain ⟨s', response, haccepted⟩ : ∃ s' response,
      execute Sample.setUp Sample.ownersEnv ⟨"owner", []⟩ (.create Sample.twice) =
        .ok (s', response) := ⟨_, _, rfl⟩
  obtain ⟨id, r, hr, hprizes, hdelivered, _⟩ := accepted_delivered_iff_one_standard haccepted
    "buyer" (by decide) (fun _ => "raffles") fun _ _ => rfl
  refine ⟨s', response, id, r, haccepted, hr, hprizes, ?_⟩
  rw [Option.eq_none_iff_forall_ne_some]
  intro holders' h
  exact hdelivered.mp ⟨holders', h⟩ ⟨"punks", "1"⟩ (by simp [Sample.twice])

end Tombola
