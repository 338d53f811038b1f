import Tombola.Proofs.History
import Tombola.Proofs.Accepted.Create
import Tombola.Proofs.Accepted.Settings

/-!
# The two ways to create a raffle

The notice of a collection that it has moved a token to the contract creates the raffle that its
sender would have created with the token alone, when nothing is paid and no randomness is asked for:
it is refused for the same reason, or enters the same raffle under the same id. What such a notice
carries names the token that has come and nothing else, or it is refused.
-/

namespace Tombola

open Contract

namespace Contract

open Outcome

variable {s : Store} {env : Surroundings} {sender : Address} {t : Token} {payload : Bytes}
  {prize : Asset} {r : CreateRequest}

/-- What a raffle of a token leaves behind when its owner brings the token along, and when the
collection has moved it: the same store and the same record. The owner's token is still to be
moved. -/
structure SameEntry (env : Surroundings) (prize : Asset) (brought arrived : Effect) : Prop where
  store : arrived.1 = brought.1
  attributes : arrived.2.attributes = brought.2.attributes
  moves : brought.2.messages = [transfer env.self prize]
  rests : arrived.2.messages = []

theorem takePrizes_of_owned (ht : prize.token? = some t)
    (howner : env.ownerOf t.collection t.id = .ok sender) (purse : Purse) :
    takePrizes env sender [prize] purse = .ok ([transfer env.self prize], purse) :=
  takePrizes_cons_of_owned ht howner rfl

/-- A token that its owner brings without coins is all there is to collect, if creations are
free. -/
theorem collect_of_owned (hprizes : r.prizes = [prize]) (ht : prize.token? = some t)
    (howner : env.ownerOf t.collection t.id = .ok sender) (hauto : r.autocycle.getD false = false)
    (config : Config) : collect env config ⟨sender, []⟩ r .empty =
      Payment.creationFee .empty config.creationFees >>= fun _ =>
        pure [transfer env.self prize] := by
  unfold collect
  rw [hprizes, takePrizes_of_owned ht howner, hauto]
  simp only [ok_bind, pure_bind, Bool.false_eq_true, if_false]
  apply Outcome.bind_congr
  intro fee hfee
  -- An empty purse pays no fee, so nothing is sent and the purse stays empty.
  obtain rfl := Payment.creationFee_empty hfee
  rfl

theorem checkPrizes_token (ht : prize.token? = some t) : checkPrizes [prize] = .ok () := by
  cases prize with
  | coin c => cases ht
  | _ => rfl

theorem holdsOnly_token (ht : prize.token? = some t) : holdsOnly [prize] t = true := by
  cases prize with
  | coin c => cases ht
  | _ =>
      obtain rfl := Option.some.inj ht
      exact beq_self_eq_true _

/-- What is done about a raffle of a token in either way: the same checks, and the same entry. -/
def enterToken (s : Store) (now : Timestamp) (sender : Address) (r : CreateRequest) :
    Outcome (Store × RaffleId × Address) := do
  let config ← s.getConfig
  Outcome.ensure (!config.locks.locked) .locked
  checkPrice r.price
  r.options.check config
  let _ ← Payment.creationFee .empty config.creationFees
  let owner ← namedOwner r.owner sender
  let (s, id, _) ← enterRaffle s now config owner r.prizes r.price r.options
  pure (s, id, owner)

/-- The owner of a token who brings it along without coins moves it and enters it. -/
theorem create_of_owned (hprizes : r.prizes = [prize]) (ht : prize.token? = some t)
    (howner : env.ownerOf t.collection t.id = .ok sender)
    (hauto : r.autocycle.getD false = false) :
    create s env ⟨sender, []⟩ r = enterToken s env.now sender r >>= fun (s, id, owner) =>
      pure (s, .withMessages [transfer env.self prize] (creationAttributes id owner)) := by
  have hpurse : Payment.purseOf [] = .ok .empty := rfl
  have hprize : checkPrizes r.prizes = .ok () := by rw [hprizes, checkPrizes_token ht]
  have hcollect (config : Config) := collect_of_owned hprizes ht howner hauto config
  simp only [create, createChecks, enterToken, hprize, hpurse, hcollect, hauto, bind_assoc, ok_bind,
    pure_bind, Bool.false_eq_true, if_false]

/-- A token that has arrived is entered. -/
theorem deposit_of_received (hprizes : r.prizes = [prize]) (ht : prize.token? = some t)
    (hauto : r.autocycle.getD false = false) (hsender : sender.Accepted)
    (hpayload : Wire.request.decodeBytes? payload = some (.create r)) (funds : List Coin) :
    deposit s env ⟨t.collection, funds⟩ ⟨sender, t.id, payload⟩ =
      enterToken s env.now sender r >>= fun (s, id, owner) =>
        pure (s, .ofAttributes (creationAttributes id owner)) := by
  have hvalid : sender.validate = .ok sender := validate_eq_ok.mpr ⟨hsender, rfl⟩
  have hholds : holdsOnly r.prizes t = true := by rw [hprizes, holdsOnly_token ht]
  simp only [deposit, hvalid, hpayload, enterToken, hholds, hauto, orRefuse, Bool.not_false,
    ensure_true, bind_assoc, ok_bind, pure_bind]

/-- A deposit that does not name exactly the token that has come is refused. -/
theorem deposit_of_not_received {caller : Caller} {token : TokenId}
    (h : ∀ r, Wire.request.decodeBytes? payload = some (.create r) →
      r.prizes ≠ [.cw721 ⟨caller.address, token⟩] ∧
      r.prizes ≠ [.sg721 ⟨caller.address, token⟩]) :
    ∃ fault, deposit s env caller ⟨sender, token, payload⟩ = .error fault := by
  cases hout : deposit s env caller ⟨sender, token, payload⟩ with
  | error fault => exact ⟨fault, rfl⟩
  | ok effect =>
      obtain ⟨_, r, _, _, _, _, _, hpayload, _, _, hprizes, _⟩ := deposit_eq_ok hout
      obtain ⟨hcw, hsg⟩ := h r hpayload
      rcases hprizes with hprizes | hprizes
      · exact absurd hprizes hcw
      · exact absurd hprizes hsg

end Contract

/-- The owner of a token who creates a raffle of it alone, without coins and without asking for
randomness, and the token's collection, which passes the same request on when it has moved the
token, get the same: both are refused for the same reason, or both succeed and leave the same store.
A collection that passes on anything but the creation of a raffle of exactly the moved token is
refused. -/
theorem creation_paths_agree :
    (∀ {s env env' sender t payload prize r}, sender.Accepted → r.prizes = [prize] →
      prize.token? = some t → r.autocycle.getD false = false →
      env.ownerOf t.collection t.id = .ok sender → env'.now = env.now →
      Wire.request.decodeBytes? payload = some (.create r) → ∀ funds,
        Outcome.Rel (SameEntry env prize) (execute s env ⟨sender, []⟩ (.create r))
          (execute s env' ⟨t.collection, funds⟩ (.deposit ⟨sender, t.id, payload⟩))) ∧
    ∀ {s env caller sender token payload},
      (∀ r, Wire.request.decodeBytes? payload = some (.create r) →
        r.prizes ≠ [.cw721 ⟨caller.address, token⟩] ∧
        r.prizes ≠ [.sg721 ⟨caller.address, token⟩]) →
      ∃ fault, execute s env caller (.deposit ⟨sender, token, payload⟩) = .error fault := by
  constructor
  · intro s env env' sender t payload prize r hsender hprizes ht hauto howner hnow hpayload funds
    rw [execute, execute, create_of_owned hprizes ht howner hauto,
      deposit_of_received hprizes ht hauto hsender hpayload, hnow]
    exact .step _ fun _ _ => .ok ⟨rfl, rfl, rfl, rfl⟩
  · intro s env caller sender token payload h
    exact deposit_of_not_received h

namespace Sample

/-- A raffle of a token. -/
def tokenRaffle : CreateRequest where
  owner := none
  prizes := [.cw721 ⟨"nfts", "7"⟩]
  options := .empty
  price := .coin (coin 4 "ustars")
  autocycle := none

/-- The request for it, in which the settings that are not made are left out. -/
def passedOn : Bytes := Text.utf8 <|
  "\x7b\"create_raffle\":\x7b" ++
    "\"assets\":[\x7b\"cw721_coin\":\x7b\"address\":\"nfts\",\"token_id\":\"7\"\x7d\x7d]," ++
    "\"raffle_options\":\x7b\x7d," ++
    "\"raffle_ticket_price\":\x7b\"coin\":\x7b\"denom\":\"ustars\",\"amount\":\"4\"\x7d\x7d" ++
    "\x7d\x7d"

/-- Every token has the same owner. -/
def ownedBy (owner : Address) : Surroundings := ⟨⟨5⟩, "raffles", fun _ _ => .ok owner⟩

/-- The owner of the token creates the raffle with it. -/
def bringing : Turn := .execute (ownedBy "alice") ⟨"alice", []⟩ (.create tokenRaffle)

/-- The collection tells that the owner has sent a token to the contract. -/
def arrival (token : TokenId) : Turn :=
  .execute (ownedBy "raffles") ⟨"nfts", []⟩ (.deposit ⟨"alice", token, passedOn⟩)

end Sample

/-- The token's owner creates the first raffle of the small contract in either way, and the notice
of another token is refused. -/
theorem token_raffle_of_sample_entered : ∃ made received,
    Sample.bringing.outcome Sample.setUp = .ok made ∧
    (Sample.arrival "7").outcome Sample.setUp = .ok received ∧
    SameEntry (Sample.ownedBy "alice") (.cw721 ⟨"nfts", "7"⟩) made received ∧
    (∃ raffle, made.1.raffles.get? 0 = some raffle ∧ raffle.owner = "alice") ∧
    ∃ fault, (Sample.arrival "8").outcome Sample.setUp = .error fault := by
  obtain ⟨hagree, hother⟩ := creation_paths_agree
  have hpayload : Wire.request.decodeBytes? Sample.passedOn =
      some (.create Sample.tokenRaffle) := by decide +kernel
  have hsender : Address.Accepted "alice" := rfl
  have hprizes : Sample.tokenRaffle.prizes = [.cw721 ⟨"nfts", "7"⟩] := rfl
  have htoken : Asset.token? (.cw721 ⟨"nfts", "7"⟩) = some ⟨"nfts", "7"⟩ := rfl
  have howner : (Sample.ownedBy "alice").ownerOf "nfts" "7" = .ok "alice" := rfl
  have hnow : (Sample.ownedBy "raffles").now = (Sample.ownedBy "alice").now := rfl
  have hpaths : Outcome.Rel (SameEntry (Sample.ownedBy "alice") (.cw721 ⟨"nfts", "7"⟩))
      (Sample.bringing.outcome Sample.setUp) ((Sample.arrival "7").outcome Sample.setUp) :=
    hagree hsender hprizes htoken rfl howner hnow hpayload []
  have hrefused : ∃ fault, (Sample.arrival "8").outcome Sample.setUp = .error fault := by
    apply hother
    intro r hr
    obtain rfl := Request.create.inj (Option.some.inj (hpayload.symm.trans hr))
    exact ⟨by decide, by decide⟩
  obtain ⟨response, hmade⟩ : ∃ response, Sample.bringing.outcome Sample.setUp =
      .ok (Sample.bringing.after Sample.setUp, response) := Turn.outcome_of_isSome (by decide)
  rw [hmade] at hpaths
  obtain ⟨received, hreceived, hsame⟩ := hpaths.exists_ok
  exact ⟨_, received, hmade, hreceived, hsame, ⟨_, rfl, rfl⟩, hrefused⟩

end Tombola
