import Tombola.Proofs.Wire.Values
import Tombola.Wire.Request

/-!
# Requests are read back

Every request is read back from the text that is written for it, and a text that names the parts of
a request wrongly is refused. A collection's notice is written with one tag and read with either of
two.
-/

namespace Tombola.Wire

open Codec Fields

variable {depth : Nat}

/-! ## Records -/

theorem sound_optionsRequest : optionsRequest.Sound (depth + 2) := by
  refine (sound_recordOf ?_ (fun _ => rfl) (by decide) true).named rfl _
  exact ((sound_field (sound_timestamp.optional nofun) _ _).map _)
    |>.seq (sound_field (sound_uint64.optional present_uint64) _ _)
    |>.seq (sound_field (sound_uint64.optional present_uint64) _ _)
    |>.seq (sound_field (sound_text.optional nofun) _ _)
    |>.seq (sound_field (sound_uint32.optional present_uint32) _ _)
    |>.seq (sound_field (sound_uint32.optional present_uint32) _ _)
    |>.seq (sound_field (sound_uint32.optional present_uint32) _ _)

theorem sound_createRequest : createRequest.Sound (depth + 5) := by
  refine sound_recordOf ?_ (fun _ => rfl) (by decide) true
  exact ((sound_field (sound_text.optional nofun) _ _).map _)
    |>.seq (sound_field sound_asset.list _ _)
    |>.seq (sound_field sound_optionsRequest _ _)
    |>.seq (sound_field sound_asset _ _)
    |>.seq (sound_field (sound_flag.optional present_flag) _ _)

theorem sound_configRequest : configRequest.Sound (depth + 4) := by
  refine sound_recordOf ?_ (fun _ => rfl) (by decide) true
  exact ((sound_field (sound_text.optional nofun) _ _).map _)
    |>.seq (sound_field (sound_text.optional nofun) _ _)
    |>.seq (sound_field (sound_text.optional nofun) _ _)
    |>.seq (sound_field (sound_uint64.optional present_uint64) _ _)
    |>.seq (sound_field (sound_uint64.optional present_uint64) _ _)
    |>.seq (sound_field (sound_uint32.optional present_uint32) _ _)
    |>.seq (sound_field (sound_decimal.optional nofun) _ _)
    |>.seq (sound_field (sound_text.optional nofun) _ _)
    |>.seq (sound_field (sound_coin.optional nofun) _ _)
    |>.seq (sound_field (sound_coin.list.optional nofun) _ _)

theorem sound_modifyRequest : modifyRequest.Sound (depth + 4) := by
  refine sound_recordOf ?_ (fun _ => rfl) (by decide) true
  exact ((sound_field sound_uint64 _ _).map _)
    |>.seq (sound_field (sound_asset.optional present_asset) _ _)
    |>.seq (sound_field sound_optionsRequest _ _)

theorem sound_buyRequest : buyRequest.Sound (depth + 4) := by
  refine sound_recordOf ?_ (fun _ => rfl) (by decide) true
  exact ((sound_field sound_uint64 _ _).map _)
    |>.seq (sound_field sound_uint32 _ _)
    |>.seq (sound_field sound_asset _ _)

theorem sound_depositRequest : depositRequest.Sound (depth + 2) := by
  refine (sound_recordOf ?_ (fun _ => rfl) (by decide) true).named rfl _
  exact ((sound_field sound_text _ _).map _)
    |>.seq (sound_field sound_text _ _)
    |>.seq (sound_field sound_base64Bytes _ _)

theorem sound_randomnessAnswer : randomnessAnswer.Sound (depth + 2) := by
  refine (sound_recordOf ?_ (fun _ => rfl) (by decide) true).named rfl _
  exact ((sound_field sound_text _ _).map _)
    |>.seq (sound_field (sound_timestamp.remarked rfl) _ _)
    |>.seq (sound_field (sound_hexBytes.remarked rfl) _ _)

theorem sound_raffleOnly : raffleOnly.Sound (depth + 2) :=
  sound_recordOf (sound_field sound_uint64 _ _) (fun _ => rfl) (by decide) true

theorem sound_lockOnly : lockOnly.Sound (depth + 2) :=
  sound_recordOf (sound_field sound_flag _ _) (fun _ => rfl) (by decide) true

theorem sound_answerOnly : answerOnly.Sound (depth + 3) :=
  sound_recordOf (sound_field sound_randomnessAnswer _ _) (fun _ => rfl) (by decide) true

/-! ## The sum of all requests -/

/-- The cases of a request: one has another tag, and none has two. -/
theorem request_cases (depth : Nat) : ∃ cases : List (Case Request),
    request = (variants cases).named "ExecuteMsg" ∧ (∀ c ∈ cases, c.Sound (depth + 5)) ∧
    Case.Apart cases ∧ (∀ r, (cases.findSome? (·.write? r)).isSome) ∧
    ∀ c ∈ cases, c.alias? = none ∨ c.alias? = some "receive" := by
  refine ⟨_, rfl, ?_, by decide, ?_, by decide⟩
  · simp only [List.forall_mem_cons]
    refine ⟨Case.sound_case sound_createRequest ?_ _ _, Case.sound_case sound_raffleOnly ?_ _ _,
      Case.sound_case sound_configRequest ?_ _ _, Case.sound_case sound_modifyRequest ?_ _ _,
      Case.sound_case sound_buyRequest ?_ _ _, Case.sound_case sound_depositRequest ?_ _ _,
      Case.sound_case sound_raffleOnly ?_ _ _, Case.sound_case sound_answerOnly ?_ _ _,
      Case.sound_case sound_raffleOnly ?_ _ _, Case.sound_case sound_lockOnly ?_ _ _,
      Case.sound_case sound_raffleOnly ?_ _ _, nofun⟩
    all_goals
      intro r a h
      cases r
      all_goals cases h
      rfl
  · intro r
    cases r <;> rfl

theorem faithful_request : request.Faithful (depth + 6) := by
  obtain ⟨cases, hrequest, hcases, hapart, htotal, _⟩ := request_cases depth
  have h := faithful_variants hcases hapart htotal
  rw [hrequest]
  exact ⟨h.fits, h.reads⟩

/-- A text of one request is read back. -/
theorem decode?_encode (r : Request) : request.decode? (request.encode r) = some r := by
  have h : request.Faithful Json.depthLimit := faithful_request
  rw [decode?, encode, Json.parse?_render (h.fits r)]
  exact h.reads r

/-! ## Two tags for one request -/

/-- The tree in which a collection's notice has the tag that it is written with. -/
def spelledOut : Json → Json
  | .object [("receive", body)] => .object [("receive_nft", body)]
  | tree => tree

theorem spelledOut_ne_receive (tree body : Json) :
    spelledOut tree ≠ .object [("receive", body)] := by
  unfold spelledOut
  split
  · simp
  · next h => exact fun heq => h body heq

theorem read?_spelledOut (tree : Json) : request.read? (spelledOut tree) = request.read? tree := by
  unfold spelledOut
  split
  · rfl
  · rfl

/-- Nothing flawed is read, under either tag. -/
theorem request_refuses {tree : Json} (h : Flawed request.shape (spelledOut tree)) :
    request.read? tree = none := by
  obtain ⟨cases, hrequest, hcases, hapart, _, halias⟩ := request_cases 0
  rw [← read?_spelledOut]
  rw [hrequest] at h ⊢
  cases h with
  | named inner =>
      apply variants_refuses hcases hapart inner
      rintro tag body hbody c hc hother
      rcases halias c hc with hnone | hreceive
      · rw [hnone] at hother
        cases hother
      · obtain rfl := Option.some.inj (hreceive.symm.trans hother)
        exact spelledOut_ne_receive tree body hbody

/-- The text of an object with one field. -/
def tagged (tag body : String) : String := "\x7b\"" ++ tag ++ "\":" ++ body ++ "\x7d"

/-- A tag without characters to escape is written as it is. -/
theorem render_tagged {tag : String} (htag : tag.toList.flatMap Json.escape = tag.toList)
    (body : Json) : Json.render (.object [(tag, body)]) = tagged tag body.render := by
  apply String.toList_injective
  simp [Json.render, Json.chars, Json.fieldChars, Json.oneFieldChars, Json.quote, tagged, htag]

/-- A collection's notice is read under both tags. -/
theorem decode?_tagged (d : DepositRequest) {tag : String}
    (htag : tag = "receive_nft" ∨ tag = "receive") :
    request.decode? (tagged tag (depositRequest.encode d)) = some (.deposit d) := by
  have hbody : Json.Fits (Json.depthLimit - 1) (depositRequest.write d) :=
    sound_depositRequest.fits d
  have hfits : Json.Fits Json.depthLimit (.object [(tag, depositRequest.write d)]) := by
    refine .object fun part hpart => ?_
    obtain rfl := List.mem_singleton.mp hpart
    exact hbody
  have hplain : tag.toList.flatMap Json.escape = tag.toList := by
    rcases htag with rfl | rfl <;> simp [Json.escape]
  have hfaithful : request.Faithful Json.depthLimit := faithful_request
  have hread : request.read? (.object [(tag, depositRequest.write d)]) = some (.deposit d) := by
    have hwritten := hfaithful.reads (.deposit d)
    rcases htag with rfl | rfl
    · exact hwritten
    · rw [← read?_spelledOut]
      exact hwritten
  rw [encode, ← render_tagged hplain, decode?, Json.parse?_render hfits]
  exact hread

/-- Every request is read back from its text, and from the bytes of its text, in which a collection
passes it on. A collection's notice is written with one tag, and what is written under it is read
as the same notice under that tag and under another one. A text is refused when what it holds names
the parts of a request wrongly: by an unknown field, except in a coin, by a field that comes twice
or is missing and can not be left out, by an unknown tag, or by more or fewer tags than one, at any
depth and under either tag of the notice. -/
theorem requests_survive_encoding :
    (∀ r : Request, request.decode? (request.encode r) = some r ∧
      request.decodeBytes? (Text.utf8 (request.encode r)) = some r) ∧
    (∀ d : DepositRequest,
      request.encode (.deposit d) = tagged "receive_nft" (depositRequest.encode d) ∧
      ∀ tag, tag = "receive_nft" ∨ tag = "receive" →
        request.decode? (tagged tag (depositRequest.encode d)) = some (.deposit d)) ∧
    ∀ text tree, Json.parse? text = some tree → Flawed request.shape (spelledOut tree) →
      request.decode? text = none := by
  refine ⟨fun r => ⟨decode?_encode r, decode?_encode r⟩, ?_, ?_⟩
  · intro d
    refine ⟨?_, fun tag htag => decode?_tagged d htag⟩
    rw [encode, encode, ← render_tagged (by simp [Json.escape])]
    rfl
  · intro text tree hparse hflawed
    rw [decode?, hparse, Option.bind_eq_bind, Option.bind_some]
    exact request_refuses hflawed

/-- The order to lock the contract is read, and is refused when it says twice whether to lock. -/
theorem lock_of_sample_said_once :
    request.decode? (tagged "toggle_lock" (tagged "lock" "true")) = some (.setLock true) ∧
    request.decode? (tagged "toggle_lock" "\x7b\"lock\":true,\"lock\":true\x7d") = none := by
  obtain ⟨hread, _, hrefused⟩ := requests_survive_encoding
  have hlock : "toggle_lock".toList.flatMap Json.escape = "toggle_lock".toList := by
    simp [Json.escape]
  constructor
  · have htext : tagged "toggle_lock" (tagged "lock" "true") = request.encode (.setLock true) := by
      have hinner : tagged "lock" "true" = Json.render (.object [("lock", .ofBool true)]) :=
        (render_tagged (by simp [Json.escape]) (.ofBool true)).symm
      rw [hinner, ← render_tagged hlock]
      rfl
    rw [htext]
    exact (hread _).1
  · have htext : "\x7b\"lock\":true,\"lock\":true\x7d" =
        Json.render (.object [("lock", .ofBool true), ("lock", .ofBool true)]) := by
      apply String.toList_injective
      simp [Json.render, Json.chars, Json.fieldChars, Json.oneFieldChars, Json.quote, Json.escape,
        Json.ofBool]
    have hword : Json.Fits 126 (.ofBool true) := sound_flag.fits true
    rw [htext, ← render_tagged hlock]
    refine hrefused _ _ (Json.parse?_render (.object ?_)) ?_
    · refine List.forall_mem_cons.mpr ⟨.object ?_, List.forall_mem_nil _⟩
      exact List.forall_mem_cons.mpr
        ⟨hword, List.forall_mem_cons.mpr ⟨hword, List.forall_mem_nil _⟩⟩
    · exact .named (.body (List.mem_of_getElem? (i := 9) rfl)
        (.repeated (by decide : "lock" ∈ ["lock"]) (by decide)))

end Tombola.Wire
