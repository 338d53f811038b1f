import Tombola.Proofs.Chain.Reach
import Tombola.Proofs.Chain.Titles
import Tombola.Proofs.Prizes

/-!
# Custody of prizes on the chain

Whatever accounts do on the chain, the raffle contract has every token of the collection that a
raffle still has to hand out, and no two raffles have to hand out the same token. Within a
transaction this holds up to the messages of the raffle contract that are still to be carried out:
a new raffle names tokens that are about to arrive, and a settled one has ceased to name those that
are about to leave.
-/

namespace Tombola.Chain

open Attempt Contract
open Outcome (bind_eq_ok pure_eq_ok map_eq_ok)

/-- A token of the collection on the chain. -/
def token (x : TokenId) : Token := ⟨Party.collection.address, x⟩

/-- The raffle contract has the tokens that raffles still have to hand out, but for those that are
moved to it by messages not carried out yet. No other message moves such a token, and nobody else
may. -/
structure Custody (pending : List Message) (c : Chain) : Prop where
  held : ∀ {id x}, c.raffle.Names id (token x) →
    c.collection.owner? x = some Party.raffle.address ∨
      ∃ m ∈ pending, m.moves? = some (Party.raffle.address, token x)
  alone : ∀ {id id' x}, c.raffle.Names id (token x) → c.raffle.Names id' (token x) → id = id'
  free : ∀ m ∈ pending, ∀ {receiver x}, m.moves? = some (receiver, token x) →
    receiver = Party.raffle.address ∨ ∀ id, ¬c.raffle.Names id (token x)
  exclusive : c.collection.Exclusive Party.raffle.address

/-- No token has moved, and no raffle names a token that it did not name before. -/
structure Undisturbed (c c' : Chain) : Prop where
  collection : c'.collection = c.collection
  names : ∀ {id x}, c'.raffle.Names id x → c.raffle.Names id x

/-- The packets by which randomness is asked for and answered. -/
inductive Packet.Quiet : Packet → Prop
  | ask (request : OracleRequest) : Quiet (.oracle request)
  | answer (answer : RandomnessAnswer) : Quiet (.raffle (.receiveRandomness answer))

/-- A call with such a packet. -/
inductive Order.Quiet : Order → Prop
  | call (target : Address) {packet : Packet} (h : packet.Quiet) (funds : List Coin) :
      Quiet (.call target packet funds)

variable {c c' : Chain} {pending rest : List Message} {m : Message} {sender target : Address}
  {caller : Caller} {packet : Packet} {funds : List Coin} {events : List Event} {depth : Nat}
  {store : Store} {request : Request} {response : Response} {id : RaffleId} {x : TokenId}

theorem token_injective : Function.Injective token := by
  intro x y h
  exact congrArg Token.id h

/-- The chain tells the raffle contract who owns a token of the collection. -/
theorem owner?_of_ownerOf {owner : Address}
    (h : c.surroundings.ownerOf Party.collection.address x = .ok owner) :
    c.collection.owner? x = some owner := by
  have hcheck : Party.collection.address.check = .ok Party.collection.address := by decide
  have hparty : Party.at? Party.collection.address = some .collection := by decide
  simp only [surroundings, ownerOf, hcheck, hparty] at h
  rw [Collection.owner?]
  cases htitle : c.collection.tokens.get? x with
  | none =>
      rw [htitle] at h
      cases h
  | some title =>
      rw [htitle] at h
      obtain rfl := Except.ok.inj h
      rfl

namespace Custody

theorem undisturbed (h : Custody pending c) (hc : Undisturbed c c') : Custody pending c' where
  held hx := by
    rw [hc.collection]
    exact h.held (hc.names hx)
  alone hx hx' := h.alone (hc.names hx) (hc.names hx')
  free m hm _ _ hmoves := (h.free m hm hmoves).imp_right fun hfree id hx => hfree id (hc.names hx)
  exclusive := hc.collection ▸ h.exclusive

theorem tail (h : Custody (m :: rest) c) (hm : m.moves? = none) : Custody rest c where
  held hx := by
    rcases h.held hx with howned | ⟨m', hm', hmoves⟩
    · exact .inl howned
    · rcases List.mem_cons.mp hm' with rfl | hm'
      · exact absurd (hm.symm.trans hmoves) (by simp)
      · exact .inr ⟨m', hm', hmoves⟩
  alone := h.alone
  free m' hm' := h.free m' (List.mem_cons_of_mem _ hm')
  exclusive := h.exclusive

theorem held_of_nil (h : Custody [] c) (hx : c.raffle.Names id (token x)) :
    c.collection.owner? x = some Party.raffle.address := by
  rcases h.held hx with howned | ⟨_, hm, _⟩
  · exact howned
  · cases hm

/-! ## What the raffle contract accepts -/

/-- A request that neither creates nor settles a raffle moves tokens to the contract only. -/
theorem other (h : Custody [] c)
    (hcreates : (Turn.execute c.surroundings caller request).creates = false)
    (hsettles : (Turn.execute c.surroundings caller request).settles? = none)
    (hout : Contract.execute c.raffle c.surroundings caller request = .ok (store, response)) :
    Custody response.messages { c with raffle := store } where
  held hx := .inl (h.held_of_nil (Turn.names hcreates hout hx))
  alone hx hx' := h.alone (Turn.names hcreates hout hx) (Turn.names hcreates hout hx')
  free m hm _ _ hmoves :=
    .inl (Option.some.inj ((Turn.takes_only hsettles hout).tokens m hm _ _ hmoves)).symm
  exclusive := h.exclusive

/-- A raffle that is settled hands out tokens that no other raffle names. -/
theorem settle (h : Custody [] c)
    (hcreates : (Turn.execute c.surroundings caller request).creates = false)
    (hsettles : (Turn.execute c.surroundings caller request).settles? = some id)
    (hout : Contract.execute c.raffle c.surroundings caller request = .ok (store, response)) :
    Custody response.messages { c with raffle := store } where
  held hx := .inl (h.held_of_nil (Turn.names hcreates hout hx))
  alone hx hx' := h.alone (Turn.names hcreates hout hx) (Turn.names hcreates hout hx')
  free m hm _ _ hmoves := by
    obtain ⟨hnone, hhanded⟩ := Turn.settles_names hsettles hout
    refine .inr fun id' hx => ?_
    obtain rfl := h.alone (Turn.names hcreates hout hx) (hhanded m hm _ _ hmoves)
    exact hnone _ hx
  exclusive := h.exclusive

/-- A new raffle is entered that names tokens of no other raffle, and these are the contract's or
are moved to it. -/
theorem enter (h : Custody [] c) {new : RaffleId} {prizes : List Asset} {messages : List Message}
    (hnames : ∀ {id x}, store.Names id x → c.raffle.Names id x ∨ id = new ∧ x ∈ Asset.tokens prizes)
    (hforeign : ∀ {x}, token x ∈ Asset.tokens prizes → ∀ id, ¬c.raffle.Names id (token x))
    (hheld : ∀ {x}, token x ∈ Asset.tokens prizes →
      c.collection.owner? x = some Party.raffle.address ∨
        ∃ m ∈ messages, m.moves? = some (Party.raffle.address, token x))
    (hself : ∀ m ∈ messages, ∀ {receiver x}, m.moves? = some (receiver, x) →
      receiver = Party.raffle.address) : Custody messages { c with raffle := store } where
  held hx := by
    rcases hnames hx with hx | ⟨_, hmem⟩
    · exact .inl (h.held_of_nil hx)
    · exact hheld hmem
  alone hx hx' := by
    rcases hnames hx with hx | ⟨rfl, hmem⟩
    · rcases hnames hx' with hx' | ⟨_, hmem⟩
      · exact h.alone hx hx'
      · exact absurd hx (hforeign hmem _)
    · rcases hnames hx' with hx' | ⟨rfl, _⟩
      · exact absurd hx' (hforeign hmem _)
      · rfl
  free m hm _ _ hmoves := .inl (hself m hm hmoves)
  exclusive := h.exclusive

/-- The tokens of a new raffle are the caller's, so no other raffle names them. -/
theorem create (h : Custody [] c) {r : CreateRequest}
    (hcaller : caller.address ≠ Party.raffle.address)
    (hout : Contract.execute c.raffle c.surroundings caller (.create r) = .ok (store, response)) :
    Custody response.messages { c with raffle := store } := by
  obtain ⟨new, hnames⟩ := create_names hout
  apply h.enter hnames
  · intro x hmem id hx
    have howner : c.collection.owner? x = some caller.address :=
      owner?_of_ownerOf (create_takes hout hmem).1
    exact hcaller (Option.some.inj (howner.symm.trans (h.held_of_nil hx)))
  · intro x hmem
    exact .inr (create_takes hout hmem).2
  · intro m hm receiver x hmoves
    have htaken := Turn.takes_only (t := .execute c.surroundings caller (.create r)) rfl hout
    exact (Option.some.inj (htaken.tokens m hm _ _ hmoves)).symm

/-- A deposit makes a prize of a token that has just arrived, if it comes from the collection. -/
theorem deposit (h : Custody [] c) {d : DepositRequest}
    (harrived : caller.address = Party.collection.address →
      c.collection.owner? d.token = some Party.raffle.address ∧
        ∀ id, ¬c.raffle.Names id (token d.token))
    (hout : Contract.execute c.raffle c.surroundings caller (.deposit d) = .ok (store, response)) :
    Custody response.messages { c with raffle := store } := by
  obtain ⟨config, r, _, owner, new, raffle, hnew, _, _, _, hprizes, _, hmessages⟩ :=
    deposit_eq_ok hout
  have hmem : ∀ {x}, token x ∈ Asset.tokens r.prizes →
      caller.address = Party.collection.address ∧ x = d.token := by
    intro x hx
    have heq : token x = ⟨caller.address, d.token⟩ := by
      rcases hprizes with h | h <;> rw [h] at hx <;> exact List.mem_singleton.mp hx
    exact ⟨(congrArg Token.collection heq).symm, congrArg Token.id heq⟩
  rw [hmessages]
  apply h.enter hnew.names
  · intro x hx
    obtain ⟨hcaller, rfl⟩ := hmem hx
    exact (harrived hcaller).2
  · intro x hx
    obtain ⟨hcaller, rfl⟩ := hmem hx
    exact .inl (harrived hcaller).1
  · intro m hm
    cases hm

/-- What the raffle contract accepts from another party leaves the custody to its messages. -/
theorem accept (h : Custody [] c) (hcaller : caller.address ≠ Party.raffle.address)
    (harrived : ∀ d, request = .deposit d → caller.address = Party.collection.address →
      c.collection.owner? d.token = some Party.raffle.address ∧
        ∀ id, ¬c.raffle.Names id (token d.token))
    (hout : Contract.execute c.raffle c.surroundings caller request = .ok (store, response)) :
    Custody response.messages { c with raffle := store } := by
  cases request with
  | create r => exact h.create hcaller hout
  | deposit d => exact h.deposit (harrived d rfl) hout
  | cancel id => exact h.settle rfl rfl hout
  | claim id => exact h.settle rfl rfl hout
  | _ => exact h.other rfl rfl hout

end Custody

/-! ## Calls -/

theorem Undisturbed.trans {c'' : Chain} (h : Undisturbed c c') (h' : Undisturbed c' c'') :
    Undisturbed c c'' := ⟨h'.collection.trans h.collection, fun hx => h.names (h'.names hx)⟩

/-- Asking for randomness and answering lead only to the same. -/
theorem Served.quiet {party : Party} {reply : Reply} (h : Served c caller party packet c' reply)
    (hquiet : packet.Quiet) : Undisturbed c c' ∧ ∀ order ∈ reply.orders, order.Quiet := by
  cases h with
  | collection _ => cases hquiet
  | raffle hout =>
      cases hquiet with
      | answer answer =>
          obtain ⟨_, _, _, _, _, hmessages⟩ := receiveRandomness_eq_ok hout
          have hturn : (Turn.execute c.surroundings caller (.receiveRandomness answer)).outcome
              c.raffle = .ok (_, _) := hout
          refine ⟨⟨rfl, fun hx => Turn.names rfl hturn hx⟩, ?_⟩
          intro order horder
          rw [Reply.ofResponse, hmessages] at horder
          cases horder
  | oracle hserve =>
      refine ⟨⟨rfl, fun hx => hx⟩, ?_⟩
      intro order horder
      rcases Oracle.serve_orders hserve with hnone | ⟨answer, hanswer⟩
      · rw [hnone] at horder
        cases horder
      · rw [hanswer] at horder
        obtain rfl := List.mem_singleton.mp horder
        exact .call _ (.answer _) _

/-- A call that asks for randomness or answers disturbs nothing, with all that it leads to. -/
theorem call_undisturbed (hquiet : packet.Quiet)
    (h : call depth c sender target packet funds = .ok (c', events)) : Undisturbed c c' := by
  induction depth generalizing c c' sender target packet funds events with
  | zero => exact absurd h fail_ne_ok
  | succ depth ih =>
      obtain ⟨party, bank, served, reply, later, rfl, hserved, hcarried⟩ := call_eq_ok h
      obtain ⟨hfirst, horders⟩ := hserved.quiet hquiet
      have hlast := inTurn_keeps
        (P := fun orders c₁ => Undisturbed c c₁ ∧ ∀ order ∈ orders, order.Quiet)
        ?_ hcarried ⟨⟨hfirst.collection, hfirst.names⟩, horders⟩
      · exact hlast.1
      · rintro order rest c₁ c₂ _ ⟨hbefore, hquiets⟩ hstep
        have hrest : ∀ order ∈ rest, order.Quiet :=
          fun order horder => hquiets order (List.mem_cons_of_mem _ horder)
        cases hquiets order List.mem_cons_self with
        | call target hpacket funds =>
            exact ⟨hbefore.trans (ih hpacket (nest_eq_ok.mp hstep)), hrest⟩

/-- A transfer that goes through has reached the collection, which has moved the token. -/
theorem transfer_eq_ok {recipient : Address}
    (h : call depth c sender target (.collection (.transfer recipient x)) funds =
      .ok (c', events)) :
    target = Party.collection.address ∧ c'.raffle = c.raffle ∧
      c.collection.move c.block sender recipient x = .ok c'.collection := by
  cases depth with
  | zero => exact absurd h fail_ne_ok
  | succ depth =>
      obtain ⟨party, bank, served, reply, later, rfl, hserved, hcarried⟩ := call_eq_ok h
      cases hserved with
      | collection hserve =>
          obtain ⟨collection, hmove, hserve⟩ := bind_eq_ok.mp hserve
          obtain ⟨rfl, rfl⟩ := Prod.mk.inj (pure_eq_ok.mp hserve)
          obtain ⟨rfl, _⟩ := Prod.mk.inj (pure_eq_ok.mp hcarried)
          exact ⟨rfl, rfl, hmove⟩

namespace Custody

/-- A token moves to the raffle contract, or it is one that no raffle names. -/
theorem transfer {recipient : Address} {fee : List Coin}
    (h : Custody (.call target (.transferToken recipient x) fee :: rest) c)
    (hcall : call depth c Party.raffle.address target (.collection (.transfer recipient x)) funds =
      .ok (c', events)) : Custody rest c' := by
  obtain ⟨rfl, hraffle, hmove⟩ := transfer_eq_ok hcall
  have howner := Collection.owner?_of_move hmove
  have hfree := h.free _ List.mem_cons_self (x := x) rfl
  constructor
  · intro id y hy
    rw [hraffle] at hy
    rw [howner]
    split
    · next heq =>
      subst heq
      rcases hfree with rfl | hfree
      · exact .inl rfl
      · exact absurd hy (hfree id)
    · next hne =>
      rcases h.held hy with howned | ⟨m, hm, hmoves⟩
      · exact .inl howned
      · rcases List.mem_cons.mp hm with rfl | hm
        · exact absurd (token_injective (Prod.mk.inj (Option.some.inj hmoves)).2).symm hne
        · exact .inr ⟨m, hm, hmoves⟩
  · intro id id' y hy hy'
    rw [hraffle] at hy hy'
    exact h.alone hy hy'
  · intro m hm recipient' y hmoves
    rw [hraffle]
    exact h.free m (List.mem_cons_of_mem _ hm) hmoves
  · exact h.exclusive.move hmove

/-- A message of the raffle contract is carried out. -/
theorem carry (h : Custody (m :: rest) c)
    (hstep : carryOut (call depth) Party.raffle.address c (.ofMessage m) = .ok (c', events)) :
    Custody rest c' := by
  cases m with
  | send recipient coins =>
      obtain ⟨bank, rfl⟩ := carryOut_send_eq_ok hstep
      exact (h.tail rfl).undisturbed ⟨rfl, fun hx => hx⟩
  | call target request funds =>
      have hcall := nest_eq_ok.mp hstep
      cases request with
      | transferToken recipient x => exact h.transfer hcall
      | nextRandomness job => exact (h.tail rfl).undisturbed (call_undisturbed (.ask _) hcall)
      | randomnessAfter time job =>
          exact (h.tail rfl).undisturbed (call_undisturbed (.ask _) hcall)

/-- Once all its messages are carried out the raffle contract has the tokens itself. -/
theorem carryAll {messages : List Message} (h : Custody messages c)
    (hcarried : inTurn (carryOut (call depth) Party.raffle.address) c (messages.map .ofMessage) =
      .ok (c', events)) : Custody [] c' := by
  have hkept : ∃ left : List Message, [] = left.map Order.ofMessage ∧ Custody left c' := by
    refine inTurn_keeps
      (P := fun orders c => ∃ left : List Message, orders = left.map .ofMessage ∧ Custody left c)
      ?_ hcarried ⟨messages, rfl, h⟩
    rintro order rest c₁ c₂ _ ⟨left, hleft, hbefore⟩ hstep
    obtain ⟨m, later, rfl, rfl, rfl⟩ := List.map_eq_cons_iff.mp hleft.symm
    exact ⟨later, rfl, hbefore.carry hstep⟩
  obtain ⟨left, hleft, hlast⟩ := hkept
  rw [List.map_eq_nil_iff.mp hleft.symm] at hlast
  exact hlast

/-- The raffle contract serves a request of another party, and carries out what it asks for. -/
theorem call_raffle (h : Custody [] c) (hsender : sender ≠ Party.raffle.address)
    (harrived : ∀ d, request = .deposit d → sender = Party.collection.address →
      target = Party.raffle.address → c.collection.owner? d.token = some Party.raffle.address ∧
        ∀ id, ¬c.raffle.Names id (token d.token))
    (hcall : call depth c sender target (.raffle request) funds = .ok (c', events)) :
    Custody [] c' := by
  cases depth with
  | zero => exact absurd hcall fail_ne_ok
  | succ depth =>
      obtain ⟨party, bank, served, reply, later, rfl, hserved, hcarried⟩ := call_eq_ok hcall
      cases hserved with
      | raffle hout =>
          have hpaid : Custody [] { c with bank } := h.undisturbed ⟨rfl, fun hx => hx⟩
          exact (hpaid.accept hsender (fun d hd hs => harrived d hd hs rfl) hout).carryAll hcarried

/-- The collection serves a request of another party than the raffle contract. A token that it sends
to the raffle contract was not there, so no raffle names it. -/
theorem call_collection {asked : CollectionRequest} (h : Custody [] c)
    (hsender : sender ≠ Party.raffle.address)
    (hcall : call depth c sender target (.collection asked) funds = .ok (c', events)) :
    Custody [] c' := by
  cases depth with
  | zero => exact absurd hcall fail_ne_ok
  | succ depth =>
      obtain ⟨party, bank, served, reply, later, rfl, hserved, hcarried⟩ := call_eq_ok hcall
      cases hserved with
      | @collection _ collection _ hserve =>
          obtain ⟨hleaves, horders⟩ := Collection.serve_leaves h.exclusive hsender hserve
          have hserved : Custody [] { c with bank, collection } := by
            refine ⟨fun hx => .inl (hleaves.kept _ (h.held_of_nil hx)), h.alone, ?_,
              hleaves.exclusive⟩
            intro m hm
            cases hm
          rcases horders with hnone | ⟨contract, x, payload, hsent, hother, howner⟩
          · rw [hnone] at hcarried
            obtain ⟨rfl, _⟩ := Prod.mk.inj (pure_eq_ok.mp hcarried)
            exact hserved
          · rw [hsent] at hcarried
            obtain ⟨_, hnotified⟩ := inTurn_singleton hcarried
            refine hserved.call_raffle (by decide) ?_ (nest_eq_ok.mp hnotified)
            rintro d hd - rfl
            obtain rfl := Request.deposit.inj hd
            exact ⟨howner, fun id hx => hother (h.held_of_nil hx)⟩

/-- Custody outlasts every call of another party than the two contracts. -/
theorem call (h : Custody [] c) (hraffle : sender ≠ Party.raffle.address)
    (hcollection : sender ≠ Party.collection.address)
    (hcall : Chain.call depth c sender target packet funds = .ok (c', events)) :
    Custody [] c' := by
  cases packet with
  | raffle request =>
      exact h.call_raffle hraffle (fun _ _ hsender => absurd hsender hcollection) hcall
  | collection asked => exact h.call_collection hraffle hcall
  | oracle asked => exact h.undisturbed (call_undisturbed (.ask _) hcall)
  | unreadable =>
      cases depth with
      | zero => exact absurd hcall fail_ne_ok
      | succ depth =>
          obtain ⟨_, _, _, _, _, _, hserved, _⟩ := call_eq_ok hcall
          cases hserved

/-! ## The whole life of the chain -/

theorem of_genesis {setting : Setting} (h : genesis setting = .ok c) : Custody [] c := by
  obtain ⟨hraffles, hcollection⟩ := genesis_eq_ok h
  have hnone : ∀ {id x}, ¬c.raffle.Names id x := by
    rintro id x ⟨r, hr, _⟩
    rw [hraffles] at hr
    cases hr
  have hexclusive : Collection.empty.Exclusive Party.raffle.address :=
    ⟨fun _ => rfl, fun _ _ ht => by cases ht⟩
  exact ⟨fun hx => absurd hx hnone, fun hx => absurd hx hnone, nofun, hcollection ▸ hexclusive⟩

/-- The governance and a new code of the raffle contract disturb nothing. -/
theorem govern (h : Custody [] c) {order : Option GovernanceRequest}
    (hout : Chain.govern c order = .ok (c', events)) : Custody [] c' := by
  cases order with
  | none => exact absurd hout fail_ne_ok
  | some request =>
      obtain ⟨⟨store, response⟩, hgovern, hout⟩ := bind_eq_ok.mp hout
      obtain ⟨rfl, _⟩ := Prod.mk.inj (pure_eq_ok.mp hout)
      have hturn : (Turn.govern c.block.time request).outcome c.raffle = .ok (store, response) :=
        ofOutcome_eq_ok.mp hgovern
      exact h.undisturbed ⟨rfl, fun hx => Turn.names rfl hturn hx⟩

theorem migrate (h : Custody [] c) {code : Nat}
    (hout : Chain.migrate c sender code = .ok (c', events)) : Custody [] c' := by
  obtain ⟨_, _, hout⟩ := bind_eq_ok.mp hout
  obtain ⟨_, _, hout⟩ := bind_eq_ok.mp hout
  obtain ⟨_, _, hout⟩ := bind_eq_ok.mp hout
  obtain ⟨_, _, hout⟩ := bind_eq_ok.mp hout
  obtain ⟨rfl, _⟩ := Prod.mk.inj (pure_eq_ok.mp hout)
  exact h.undisturbed ⟨rfl, fun hx => hx⟩

theorem happening (h : Custody [] c) (e : Happening) (genuine : e.Genuine)
    (hout : e.outcome c = .ok c') : Custody [] c' := by
  cases e with
  | transaction sender party packet funds =>
      obtain ⟨⟨c₁, _⟩, hcall, rfl⟩ := map_eq_ok.mp hout
      exact h.call genuine.1 genuine.2 hcall
  | governance order =>
      obtain ⟨⟨c₁, _⟩, hgovern, rfl⟩ := map_eq_ok.mp hout
      exact h.govern hgovern
  | migration sender code =>
      obtain ⟨⟨c₁, _⟩, hmigrate, rfl⟩ := map_eq_ok.mp hout
      exact h.migrate hmigrate
  | funding account coins =>
      obtain ⟨bank, _, hout⟩ := bind_eq_ok.mp hout
      obtain rfl := pure_eq_ok.mp hout
      exact h.undisturbed ⟨rfl, fun hx => hx⟩
  | block next =>
      obtain rfl := pure_eq_ok.mp hout
      exact h.undisturbed ⟨rfl, fun hx => hx⟩

end Custody

theorem Reaches.custody {setting : Setting} (h : Reaches setting c) : Custody [] c :=
  h.invariant .of_genesis fun e genuine hout hc => hc.happening e genuine hout

/-- The raffle is neither cancelled nor claimed, and has a token of the collection as a prize, under
either standard. -/
def Offers (r : Raffle) (x : TokenId) : Prop :=
  r.cancelled = false ∧ r.claimed = false ∧
    (.cw721 ⟨Party.collection.address, x⟩ ∈ r.prizes ∨
      .sg721 ⟨Party.collection.address, x⟩ ∈ r.prizes)

theorem Offers.names {r : Raffle} (h : Offers r x) (hr : c.raffle.raffles.get? id = some r) :
    c.raffle.Names id (token x) :=
  ⟨r, hr, ⟨h.1, h.2.1⟩, Asset.mem_tokens.mpr h.2.2⟩

/-- Whatever accounts do, the raffle contract has every token of the collection that a raffle
neither cancelled nor claimed has as a prize, and no token is a prize of two such raffles. -/
theorem prizes_in_custody {setting : Setting} (h : Reaches setting c) :
    (∀ id r x, c.raffle.raffles.get? id = some r → Offers r x →
      ∃ title, c.collection.tokens.get? x = some title ∧ title.owner = Party.raffle.address) ∧
    (∀ id id' r r' x, c.raffle.raffles.get? id = some r → c.raffle.raffles.get? id' = some r' →
      Offers r x → Offers r' x → id = id') := by
  constructor
  · intro id r x hr hoffers
    exact Option.map_eq_some_iff.mp (h.custody.held_of_nil (hoffers.names hr))
  · intro id id' r r' x hr hr' hoffers hoffers'
    exact h.custody.alone (hoffers.names hr) (hoffers'.names hr')

namespace Sample

/-- The only prize is a token of the collection. -/
def prize : CreateRequest := { Tombola.Sample.raffle with
  prizes := [.cw721 (token "7")]
  autocycle := none }

/-- The owner of a new token lets the raffle contract move it, and creates a raffle with it. -/
def offering : List Happening :=
  [.funding "owner" [Tombola.Sample.coin 50 "ustars"],
    .transaction "fee" .collection (.collection (.mint "7" "owner")) [],
    .transaction "owner" .collection (.collection (.approve Party.raffle.address "7" none)) [],
    .transaction "owner" .raffle (.raffle (.create prize)) [Tombola.Sample.coin 50 "ustars"]]

end Sample

/-- The new raffle offers the token, and the raffle contract has it. -/
theorem sample_prize_in_custody : ∃ c r, Reaches .manualOracle c ∧
    c.raffle.raffles.get? 0 = some r ∧ Offers r "7" ∧
    ∃ title, c.collection.tokens.get? "7" = some title ∧ title.owner = "contract2" := by
  obtain ⟨new, hnew⟩ : ∃ new, genesis .manualOracle = .ok new := ⟨_, rfl⟩
  have hreaches := (Reaches.start hnew).all (by decide : ∀ e ∈ Sample.offering, e.Genuine)
  obtain ⟨r, hr, hoffers⟩ : ∃ r,
      (Sample.offering.foldl Happening.after new).raffle.raffles.get? 0 = some r ∧
        Offers r "7" := by
    obtain rfl := Except.ok.inj hnew
    exact ⟨_, rfl, rfl, rfl, .inl List.mem_cons_self⟩
  exact ⟨_, r, hreaches, hr, hoffers, (prizes_in_custody hreaches).1 0 r "7" hr hoffers⟩

end Tombola.Chain
